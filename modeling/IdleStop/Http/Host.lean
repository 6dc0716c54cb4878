import IdleStop.Http.DomainName
import IdleStop.Http.Ipv4
import IdleStop.Http.Ipv6
import IdleStop.Http.Percent
import IdleStop.Text.Utf8
/-!
# Hosts

An address names a host by its domain name or by its number. Where names are
looked up, a name is put into ASCII first, and one that ends in a number has
to be a number as a whole. Elsewhere a name is kept as it is.
-/

namespace IdleStop

namespace Http

/-- A host. -/
inductive Host
  | name (text : String)
  | ipv4 (address : Ipv4)
  | ipv6 (address : Ipv6)
  deriving DecidableEq, Repr

namespace Host

/-- A host in writing. -/
def text : Host → String
  | name s => s
  | ipv4 address => address.text
  | ipv6 address => "[" ++ address.text ++ "]"

/-- What stands in brackets, if a text begins with one. A text that begins
with a bracket and does not end with one is not a host. -/
def bracketed? : List Char → Option (Option Ipv6)
  | '[' :: cs => some (if cs.getLast? = some ']' then Ipv6.parse? cs.dropLast else none)
  | _ => none

/-- Whether a character cannot stand in a name that is kept as it is. -/
def isForbidden (c : Char) : Bool :=
  "\x00\t\n\r #/:<>?@[\\]^|".toList.contains c

/-- The host with a name that is kept as it is. -/
def ofKeptName? (cs : List Char) : Option Host :=
  match bracketed? cs with
  | some address? => address?.map ipv6
  | none =>
    if cs.any isForbidden then none
    else
      some (name (String.ofList
        (Percent.escape (fun c => 0x20 ≤ c.toNat && c.toNat < 0x7f) cs)))

/-- The host with a name that is looked up. -/
def ofName? (cs : List Char) : Option Host :=
  match bracketed? cs with
  | some address? => address?.map ipv6
  | none => do
    let characters ← Utf8.decode? (Percent.bytes cs)
    let ascii ← DomainName.toAscii? characters.toList
    if ascii.isEmpty then none
    else if Ipv4.isMeant ascii then (Ipv4.parse? ascii).map ipv4
    else some (name (String.ofList ascii))

end Host

end Http

end IdleStop
