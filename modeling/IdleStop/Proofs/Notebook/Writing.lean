import IdleStop.Proofs.Json.Parsing
import IdleStop.Proofs.Json.Spellable
import IdleStop.Proofs.Notebook.Listing
import IdleStop.Proofs.Text.Utf8
/-!
# Listings are read as they are written

A listing is written as an array of objects, one for each item in order. The
objects may give their fields in any order and hold anything else besides, texts
may be spelled with any escapes, and white space may stand wherever it can. None
of that is seen in what is read.
-/

namespace IdleStop

open IdleStop.Action
open Json (Literal Token Tree Units)

/-- The states that a word names. -/
def KernelState.known : List KernelState :=
  [idle, busy, starting, restarting, dead]

/-- A word that writes a state: the name of a known state, and for an unknown one
any other word. -/
inductive KernelState.Writes : KernelState → String → Prop
  | known {state : KernelState} (h : state ∈ known) : Writes state state.name
  | other {word : String} (h : word ∉ known.map name) : Writes unknown word

/-- An object that writes a kernel. -/
def Kernel.Writes (k : Kernel) (t : Tree) : Prop :=
  ∃ id name word state connections lastActivity,
    t.WritesRecord ["id", "name", "execution_state", "connections", "last_activity"]
      [id, name, some state, some connections, some lastActivity] ∧
    Tree.WritesOptionalText k.id id ∧ Tree.WritesOptionalText k.name name ∧
    k.state.Writes word ∧ Tree.WritesText word state ∧
    Tree.WritesWord k.connections connections ∧ Tree.WritesText k.lastActivity lastActivity

/-- An object that writes a session. -/
def Session.Writes (s : Session) (t : Tree) : Prop :=
  ∃ id path kernel, t.WritesRecord ["id", "path", "kernel"] [id, path, some kernel] ∧
    Tree.WritesOptionalText s.id id ∧ Tree.WritesOptionalText s.path path ∧
    s.kernel.Writes kernel

/-- An object that writes a terminal. -/
def Terminal.Writes (s : Terminal) (t : Tree) : Prop :=
  ∃ name lastActivity, t.WritesRecord ["name", "last_activity"] [name, some lastActivity] ∧
    Tree.WritesOptionalText s.name name ∧ Tree.WritesText s.lastActivity lastActivity

/-- The bytes of a text that writes an array of items, each written as `writes`
has it. -/
def Listing.WritesBody {α : Type} (writes : α → Tree → Prop) (items : List α)
    (body : List UInt8) : Prop :=
  ∃ (ts : List Tree) (text : String), List.Forall₂ writes items ts ∧ (Tree.array ts).Spells text ∧
    body = text.toUTF8.data.toList

/-! ## Items are read as they are written -/

theorem KernelState.ofName_of_writes {state : KernelState} {word : String}
    (h : state.Writes word) : ofName word = state := by
  cases h with
  | known h =>
    have hknown : ∀ state ∈ known, ofName state.name = state := by decide
    exact hknown state h
  | other h =>
    simp only [known, name, List.map_cons, List.map_nil, List.mem_cons, List.not_mem_nil, or_false,
      not_or] at h
    simp [ofName, h]

theorem Kernel.ofTree?_of_writes {k : Kernel} {t : Tree} (h : k.Writes t) : ofTree? t = some k := by
  obtain ⟨id, name, word, state, connections, lastActivity, ht, hid, hname, hword, hstate,
    hconnections, hlast⟩ := h
  have hread : KernelState.ofTree? state = some k.state := by
    obtain ⟨hus⟩ := hstate
    rw [KernelState.ofTree?, Units.text?_of_writes hus, Option.map_eq_map, Option.map_some,
      KernelState.ofName_of_writes hword]
  simp [ofTree?, Tree.fields?_of_writesRecord (by decide) ht, Tree.optionalText?_of_writes hid,
    Tree.optionalText?_of_writes hname, hread, Tree.word?_of_writes hconnections,
    Tree.requiredText?_of_writes hlast]

theorem Session.ofTree?_of_writes {s : Session} {t : Tree} (h : s.Writes t) :
    ofTree? t = some s := by
  obtain ⟨id, path, kernel, ht, hid, hpath, hkernel⟩ := h
  simp [ofTree?, Tree.fields?_of_writesRecord (by decide) ht, Tree.optionalText?_of_writes hid,
    Tree.optionalText?_of_writes hpath, Kernel.ofTree?_of_writes hkernel]

theorem Terminal.ofTree?_of_writes {s : Terminal} {t : Tree} (h : s.Writes t) :
    ofTree? t = some s := by
  obtain ⟨name, lastActivity, ht, hname, hlast⟩ := h
  simp [ofTree?, Tree.fields?_of_writesRecord (by decide) ht, Tree.optionalText?_of_writes hname,
    Tree.requiredText?_of_writes hlast]

/-! ## Listings are read as they are written -/

namespace Listing

variable {α : Type} {writes : α → Tree → Prop} {item? : Tree → Option α} {items : List α}

/-- **The body of a listing is read as the items it was written for.** -/
theorem ofText?_of_writesBody (hitem : ∀ item t, writes item t → item? t = some item)
    {body : List UInt8} (h : WritesBody writes items body) :
    ofText? item? (Utf8.decodeLossy body) = some items := by
  obtain ⟨ts, text, hitems, hspells, rfl⟩ := h
  rw [Utf8.decodeLossy_toUTF8]
  exact ofText?_eq_some_iff.2 ⟨ts, Tree.parse?_of_spells hspells,
    (hitems.imp hitem).flip⟩

/-- A listing is fetched as it was written, from a complete answer that reports
success. -/
theorem fetch_of_writesBody (listing : Listing)
    (hitem : ∀ item t, writes item t → item? t = some item) {body : List UInt8}
    (h : WritesBody writes items body) {server : String} (hask : listing.Askable server)
    (file : File) :
    ((listing.fetch item? server (.answer 200 body true)).run file).result = .ok items := by
  have htext : bodyText? 200 body true = some (Utf8.decodeLossy body) := by
    rw [bodyText?, if_pos (by decide), if_pos rfl]
  exact fetch_eq_ok_iff.2
    ⟨hask, 200, body, true, _, rfl, htext, by decide, ofText?_of_writesBody hitem h⟩

end Listing

/-! ## Every listing can be written -/

theorem KernelState.exists_writes (state : KernelState) : ∃ word, state.Writes word := by
  cases state with
  | idle | busy | starting | restarting | dead => exact ⟨_, .known (by decide)⟩
  | unknown => exact ⟨"unknown", .other (by decide)⟩

theorem Kernel.exists_writes (k : Kernel) : ∃ t, k.Writes t ∧ t.Spellable := by
  obtain ⟨id, hid, hid'⟩ := Tree.exists_writesOptionalText k.id
  obtain ⟨name, hname, hname'⟩ := Tree.exists_writesOptionalText k.name
  obtain ⟨word, hword⟩ := k.state.exists_writes
  obtain ⟨state, hstate, hstate'⟩ := Tree.exists_writesText word
  obtain ⟨connections, hconnections, hconnections'⟩ := Tree.exists_writesWord k.connections
  obtain ⟨lastActivity, hlast, hlast'⟩ := Tree.exists_writesText k.lastActivity
  obtain ⟨t, ht, ht'⟩ := Tree.exists_writesRecord
    ["id", "name", "execution_state", "connections", "last_activity"]
    [id, name, state, connections, lastActivity] rfl (by simp [*])
  exact ⟨t, ⟨_, _, word, _, _, _, ht, hid, hname, hword, hstate, hconnections, hlast⟩, ht'⟩

theorem Session.exists_writes (s : Session) : ∃ t, s.Writes t ∧ t.Spellable := by
  obtain ⟨id, hid, hid'⟩ := Tree.exists_writesOptionalText s.id
  obtain ⟨path, hpath, hpath'⟩ := Tree.exists_writesOptionalText s.path
  obtain ⟨kernel, hkernel, hkernel'⟩ := s.kernel.exists_writes
  obtain ⟨t, ht, ht'⟩ := Tree.exists_writesRecord ["id", "path", "kernel"]
    [id, path, kernel] rfl (by simp [*])
  exact ⟨t, ⟨_, _, _, ht, hid, hpath, hkernel⟩, ht'⟩

theorem Terminal.exists_writes (s : Terminal) : ∃ t, s.Writes t ∧ t.Spellable := by
  obtain ⟨name, hname, hname'⟩ := Tree.exists_writesOptionalText s.name
  obtain ⟨lastActivity, hlast, hlast'⟩ := Tree.exists_writesText s.lastActivity
  obtain ⟨t, ht, ht'⟩ := Tree.exists_writesRecord ["name", "last_activity"]
    [name, lastActivity] rfl (by simp [*])
  exact ⟨t, ⟨_, _, ht, hname, hlast⟩, ht'⟩

/-- **Every listing has a body**, if every item has an object. -/
theorem Listing.exists_writesBody {α : Type} {writes : α → Tree → Prop}
    (h : ∀ item, ∃ t, writes item t ∧ t.Spellable) (items : List α) :
    ∃ body, WritesBody writes items body := by
  have hitems : ∃ ts, List.Forall₂ writes items ts ∧ ∀ t ∈ ts, t.Spellable := by
    induction items with
    | nil => exact ⟨[], .nil, nofun⟩
    | cons item items ih =>
      obtain ⟨t, ht, ht'⟩ := h item
      obtain ⟨ts, hts, hts'⟩ := ih
      exact ⟨t :: ts, .cons ht hts, List.forall_mem_cons.2 ⟨ht', hts'⟩⟩
  obtain ⟨ts, hts, hts'⟩ := hitems
  obtain ⟨text, htext⟩ := Tree.exists_spells (Tree.spellable_array hts')
  exact ⟨_, ts, text, hts, htext, rfl⟩

namespace Server

variable {server : Server} {body : List UInt8}

theorem fetchSessions_of_writesBody {sessions : List Session}
    (h : Listing.WritesBody Session.Writes sessions body)
    (hask : Listing.sessions.Askable server.address)
    (hreply : server.sessions = .answer 200 body true) (file : File) :
    (server.fetchSessions.run file).result = .ok sessions := by
  have hfetch := Listing.sessions.fetch_of_writesBody
    (fun _ _ hwrites => Session.ofTree?_of_writes hwrites) h hask file
  unfold fetchSessions
  rw [hreply]
  exact hfetch

theorem fetchTerminals_of_writesBody {terminals : List Terminal}
    (h : Listing.WritesBody Terminal.Writes terminals body)
    (hask : Listing.terminals.Askable server.address)
    (hreply : server.terminals = .answer 200 body true) (file : File) :
    (server.fetchTerminals.run file).result = .ok terminals := by
  have hfetch := Listing.terminals.fetch_of_writesBody
    (fun _ _ hwrites => Terminal.ofTree?_of_writes hwrites) h hask file
  unfold fetchTerminals
  rw [hreply]
  exact hfetch

/-- **Fetching a listing undoes writing it.** Each list of sessions is written by
some bytes. Whichever bytes write it, if they come as the body of a complete
answer with status 200, the sessions that are fetched are the ones that were
written, in their order; and the same goes for terminals. -/
theorem fetch_undoes_writing (server : Server) (file : File) :
    (∀ sessions, (∃ body, Listing.WritesBody Session.Writes sessions body) ∧
      ∀ body, Listing.WritesBody Session.Writes sessions body →
        Listing.sessions.Askable server.address → server.sessions = .answer 200 body true →
        (server.fetchSessions.run file).result = .ok sessions) ∧
    (∀ terminals, (∃ body, Listing.WritesBody Terminal.Writes terminals body) ∧
      ∀ body, Listing.WritesBody Terminal.Writes terminals body →
        Listing.terminals.Askable server.address → server.terminals = .answer 200 body true →
        (server.fetchTerminals.run file).result = .ok terminals) := by
  refine ⟨fun sessions => ⟨?_, ?_⟩, fun terminals => ⟨?_, ?_⟩⟩
  · exact Listing.exists_writesBody Session.exists_writes sessions
  · exact fun _ h hask hreply => fetchSessions_of_writesBody h hask hreply file
  · exact Listing.exists_writesBody Terminal.exists_writes terminals
  · exact fun _ h hask hreply => fetchTerminals_of_writesBody h hask hreply file

end Server

/-- A session with its fields in another order, one of them null and others missing,
a field of its own, an escaped surrogate pair, the greatest number of connections
and a state this program has no name for; and a terminal without a name. -/
theorem Server.fetch_undoes_writing_unusual :
    let session : Session :=
      ⟨none, none, ⟨none, none, .unknown, 18446744073709551615, "𝄞\n"⟩⟩
    let terminal : Terminal := ⟨none, ""⟩
    let sessions := " [\x7b\"x\":[],\"kernel\":\x7b\"last_activity\":\"\\uD834\\udd1e\\n\"," ++
      "\"connections\":18446744073709551615,\"execution_state\":\"Idle\",\"id\": null\x7d\x7d]\n"
    let terminals := "[\x7b\"last_activity\":\"\"\x7d]"
    let server : Server := ⟨"http://127.0.0.1:8000", .answer 200 sessions.toUTF8.data.toList true,
      .answer 200 terminals.toUTF8.data.toList true⟩
    Listing.WritesBody Session.Writes [session] sessions.toUTF8.data.toList ∧
      Listing.WritesBody Terminal.Writes [terminal] terminals.toUTF8.data.toList ∧
      Listing.sessions.Askable server.address ∧ Listing.terminals.Askable server.address ∧
      ∀ file, (server.fetchSessions.run file).result = .ok [session] ∧
        (server.fetchTerminals.run file).result = .ok [terminal] := by
  intro session terminal sessions terminals server
  let connections : Literal :=
    ⟨false, [1, 8, 4, 4, 6, 7, 4, 4, 0, 7, 3, 7, 0, 9, 5, 5, 1, 6, 1, 5], [], none⟩
  let kernelTree : Tree := .object (List.reverse [
    (Units.ofString "id", .null),
    (Units.ofString "execution_state", .string (Units.ofString "Idle")),
    (Units.ofString "connections", .number connections),
    (Units.ofString "last_activity", .string [0xd834, 0xdd1e, 0x0a])])
  let sessionTree : Tree :=
    .object (List.reverse [(Units.ofString "kernel", kernelTree), (Units.ofString "x", .array [])])
  let terminalTree : Tree := .object [(Units.ofString "last_activity", .string [])]
  -- the objects write the items
  have hstate : KernelState.Writes .unknown "Idle" := .other (by decide)
  have hlast : Units.Writes [0xd834, 0xdd1e, 0x0a] "𝄞\n" :=
    .pair (c := '𝄞') (by decide) (.char '\n' .nil)
  have hkernel : session.kernel.Writes kernelTree :=
    ⟨_, none, "Idle", _, _, _,
      ⟨_, _, [], rfl, (List.reverse_perm _).trans (.of_eq (List.append_nil _).symm),
        .present (Units.writes_ofString _) <| .absent <| .present (Units.writes_ofString _) <|
          .present (Units.writes_ofString _) <| .present (Units.writes_ofString _) .nil, nofun⟩,
      .null, .absent, hstate, ⟨Units.writes_ofString _⟩, ⟨by decide⟩, ⟨hlast⟩⟩
  have hsession : session.Writes sessionTree :=
    ⟨none, none, _,
      ⟨_, _, [(Units.ofString "x", .array [])], rfl, List.reverse_perm _,
        .absent <| .absent <| .present (Units.writes_ofString _) .nil,
        by simpa using ⟨"x", Units.writes_ofString _, by decide⟩⟩,
      .absent, .absent, hkernel⟩
  have hterminal : terminal.Writes terminalTree :=
    ⟨none, _,
      ⟨_, _, [], rfl, .of_eq (List.append_nil _).symm,
        .absent <| .present (Units.writes_ofString _) .nil, nofun⟩,
      .absent, ⟨.nil⟩⟩
  -- the texts write the objects
  have hconnections : connections.Spells "18446744073709551615".toList :=
    .mk (.positive (by decide) (by decide)) .none .none
  have hhigh : Units.SpellsOne (((13 * 16 + 8) * 16 + 3) * 16 + 4) "\\uD834".toList :=
    .hex (Or.inr rfl) (Or.inl rfl) (Or.inl rfl) (Or.inl rfl)
  have hlow : Units.SpellsOne (((13 * 16 + 13) * 16 + 1) * 16 + 14) "\\udd1e".toList :=
    .hex (Or.inl rfl) (Or.inl rfl) (Or.inl rfl) (Or.inl rfl)
  have hclef : (Token.string [0xd834, 0xdd1e, 0x0a]).Spells "\"\\uD834\\udd1e\\n\"".toList :=
    ⟨_, .cons hhigh <| .cons hlow <| .cons (.short (c := 'n') (by decide)) .nil, rfl⟩
  have hspace : Token.IsBlank " ".toList := by simp [Token.IsBlank]
  have hsessions : (Tree.array [sessionTree]).Spells sessions := by
    refine Token.spaced_of_pieces (w := ['\n']) (p := [(" ", "["), ("", "\x7b"), ("", "\"x\""),
      ("", ":"), ("", "["), ("", "]"), ("", ","), ("", "\"kernel\""), ("", ":"), ("", "\x7b"),
      ("", "\"last_activity\""), ("", ":"), ("", "\"\\uD834\\udd1e\\n\""), ("", ","),
      ("", "\"connections\""), ("", ":"), ("", "18446744073709551615"), ("", ","),
      ("", "\"execution_state\""), ("", ":"), ("", "\"Idle\""), ("", ","), ("", "\"id\""),
      ("", ":"), (" ", "null"), ("", "\x7d"), ("", "\x7d"), ("", "]")]) ?_
      (by simp [Token.IsBlank]) (by decide +kernel)
    exact .cons ⟨hspace, rfl⟩ <| .cons ⟨nofun, rfl⟩ <|
      .cons ⟨nofun, Token.spells_ofString (by decide)⟩ <| .cons ⟨nofun, rfl⟩ <|
      .cons ⟨nofun, rfl⟩ <| .cons ⟨nofun, rfl⟩ <| .cons ⟨nofun, rfl⟩ <|
      .cons ⟨nofun, Token.spells_ofString (by decide)⟩ <| .cons ⟨nofun, rfl⟩ <|
      .cons ⟨nofun, rfl⟩ <|
      .cons ⟨nofun, Token.spells_ofString (by decide)⟩ <| .cons ⟨nofun, rfl⟩ <|
      .cons ⟨nofun, hclef⟩ <| .cons ⟨nofun, rfl⟩ <|
      .cons ⟨nofun, Token.spells_ofString (by decide)⟩ <| .cons ⟨nofun, rfl⟩ <|
      .cons ⟨nofun, hconnections⟩ <| .cons ⟨nofun, rfl⟩ <|
      .cons ⟨nofun, Token.spells_ofString (by decide)⟩ <| .cons ⟨nofun, rfl⟩ <|
      .cons ⟨nofun, Token.spells_ofString (by decide)⟩ <| .cons ⟨nofun, rfl⟩ <|
      .cons ⟨nofun, Token.spells_ofString (by decide)⟩ <| .cons ⟨nofun, rfl⟩ <|
      .cons ⟨hspace, rfl⟩ <| .cons ⟨nofun, rfl⟩ <| .cons ⟨nofun, rfl⟩ <| .cons ⟨nofun, rfl⟩ .nil
  have hterminals : (Tree.array [terminalTree]).Spells terminals := by
    refine Token.spaced_of_pieces (w := []) (p := [("", "["), ("", "\x7b"),
      ("", "\"last_activity\""), ("", ":"), ("", "\"\""), ("", "\x7d"), ("", "]")]) ?_ nofun
      (by decide +kernel)
    exact .cons ⟨nofun, rfl⟩ <| .cons ⟨nofun, rfl⟩ <|
      .cons ⟨nofun, Token.spells_ofString (by decide)⟩ <| .cons ⟨nofun, rfl⟩ <|
      .cons ⟨nofun, [], .nil, rfl⟩ <| .cons ⟨nofun, rfl⟩ <| .cons ⟨nofun, rfl⟩ .nil
  have hbody : Listing.WritesBody Session.Writes [session] sessions.toUTF8.data.toList :=
    ⟨_, _, .cons hsession .nil, hsessions, rfl⟩
  have hbody' : Listing.WritesBody Terminal.Writes [terminal] terminals.toUTF8.data.toList :=
    ⟨_, _, .cons hterminal .nil, hterminals, rfl⟩
  have hask : Listing.sessions.Askable server.address := by decide +kernel
  have hask' : Listing.terminals.Askable server.address := by decide +kernel
  refine ⟨hbody, hbody', hask, hask', fun file => ?_⟩
  obtain ⟨hfetch, hfetch'⟩ := server.fetch_undoes_writing file
  exact ⟨(hfetch _).2 _ hbody hask rfl, (hfetch' _).2 _ hbody' hask' rfl⟩

end IdleStop
