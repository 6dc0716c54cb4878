import IdleStop.Proofs.Json.Decoding
import IdleStop.Proofs.Json.Grammar
import IdleStop.Proofs.Notebook.Listing
/-!
# A listing is fetched whole or not at all

A reply delivers a listing if it is a complete answer that reports success and
whose body is an array of items, each of which can be read (`Listing.Delivers`).
Then the listing that is fetched has these items in their order, and otherwise
there is none: the fetch fails, and names the first thing that is wrong with the
address, the connection, the status and the body, in this order
(`Listing.FirstFault`).
-/

namespace IdleStop

open Json (Tree Units)

/-! ## Items -/

/-- A tree that names a state: its word, alone or as the one key of an object that
holds null. -/
def KernelState.DecodedFrom (state : KernelState) (t : Tree) : Prop :=
  ∃ us : Units, (t = .string us ∨ t = .object [(us, .null)]) ∧ us.text?.map ofName = some state

/-- A tree that is read as a kernel. -/
def Kernel.DecodedFrom (k : Kernel) (t : Tree) : Prop :=
  ∃ (id name : Option Tree) (state connections : Tree) (lastActivity : Units),
    Tree.HasFields ["id", "name", "execution_state", "connections", "last_activity"]
      [id, name, some state, some connections, some (.string lastActivity)] t ∧
    Tree.HasOptionalText id k.id ∧ Tree.HasOptionalText name k.name ∧
    k.state.DecodedFrom state ∧ Tree.WritesWord k.connections connections ∧
    lastActivity.text? = some k.lastActivity

/-- A tree that is read as a session. -/
def Session.DecodedFrom (s : Session) (t : Tree) : Prop :=
  ∃ (id path : Option Tree) (kernel : Tree),
    Tree.HasFields ["id", "path", "kernel"] [id, path, some kernel] t ∧
    Tree.HasOptionalText id s.id ∧ Tree.HasOptionalText path s.path ∧
    s.kernel.DecodedFrom kernel

/-- A tree that is read as a terminal. -/
def Terminal.DecodedFrom (s : Terminal) (t : Tree) : Prop :=
  ∃ (name : Option Tree) (lastActivity : Units),
    Tree.HasFields ["name", "last_activity"] [name, some (.string lastActivity)] t ∧
    Tree.HasOptionalText name s.name ∧ lastActivity.text? = some s.lastActivity

variable {t : Tree}

theorem KernelState.ofTree?_eq_some_iff {state : KernelState} :
    ofTree? t = some state ↔ state.DecodedFrom t := by
  constructor
  · intro h
    unfold ofTree? at h
    split at h
    · next us => exact ⟨us, Or.inl rfl, h⟩
    · next us => exact ⟨us, Or.inr rfl, h⟩
    · cases h
  · rintro ⟨us, rfl | rfl, h⟩ <;> exact h

theorem Kernel.ofTree?_eq_some_iff {k : Kernel} : ofTree? t = some k ↔ k.DecodedFrom t := by
  rw [ofTree?, Tree.bind_fields?_eq_some_iff (by decide)]
  constructor
  · rintro ⟨slots, hfields, hread⟩
    split at hread
    · simp only [Option.bind_eq_bind, Option.bind_eq_some_iff, Option.pure_def,
        Option.some.injEq] at hread
      obtain ⟨id, hid, name, hname, state, ⟨t₁, rfl, hstate⟩, connections, ⟨t₂, rfl, hword⟩, last,
        hlast, rfl⟩ := hread
      obtain ⟨us, rfl, hus⟩ := Tree.requiredText?_eq_some_iff.1 hlast
      exact ⟨_, _, t₁, t₂, us, hfields, Tree.optionalText?_eq_some_iff.1 hid,
        Tree.optionalText?_eq_some_iff.1 hname, KernelState.ofTree?_eq_some_iff.1 hstate,
        Tree.word?_eq_some_iff.1 hword, hus⟩
    · cases hread
  · rintro ⟨id, name, t₁, t₂, us, hfields, hid, hname, hstate, hword, hus⟩
    refine ⟨_, hfields, ?_⟩
    have hlast := Tree.requiredText?_eq_some_iff.2 ⟨us, rfl, hus⟩
    simp [Tree.optionalText?_eq_some_iff.2 hid, Tree.optionalText?_eq_some_iff.2 hname,
      KernelState.ofTree?_eq_some_iff.2 hstate, Tree.word?_eq_some_iff.2 hword, hlast]

theorem Session.ofTree?_eq_some_iff {s : Session} : ofTree? t = some s ↔ s.DecodedFrom t := by
  rw [ofTree?, Tree.bind_fields?_eq_some_iff (by decide)]
  constructor
  · rintro ⟨slots, hfields, hread⟩
    split at hread
    · simp only [Option.bind_eq_bind, Option.bind_eq_some_iff, Option.pure_def,
        Option.some.injEq] at hread
      obtain ⟨id, hid, path, hpath, kernel, ⟨t₁, rfl, hkernel⟩, rfl⟩ := hread
      exact ⟨_, _, t₁, hfields, Tree.optionalText?_eq_some_iff.1 hid,
        Tree.optionalText?_eq_some_iff.1 hpath, Kernel.ofTree?_eq_some_iff.1 hkernel⟩
    · cases hread
  · rintro ⟨id, path, t₁, hfields, hid, hpath, hkernel⟩
    refine ⟨_, hfields, ?_⟩
    simp [Tree.optionalText?_eq_some_iff.2 hid, Tree.optionalText?_eq_some_iff.2 hpath,
      Kernel.ofTree?_eq_some_iff.2 hkernel]

theorem Terminal.ofTree?_eq_some_iff {s : Terminal} : ofTree? t = some s ↔ s.DecodedFrom t := by
  rw [ofTree?, Tree.bind_fields?_eq_some_iff (by decide)]
  constructor
  · rintro ⟨slots, hfields, hread⟩
    split at hread
    · simp only [Option.bind_eq_bind, Option.bind_eq_some_iff, Option.pure_def,
        Option.some.injEq] at hread
      obtain ⟨name, hname, last, hlast, rfl⟩ := hread
      obtain ⟨us, rfl, hus⟩ := Tree.requiredText?_eq_some_iff.1 hlast
      exact ⟨_, us, hfields, Tree.optionalText?_eq_some_iff.1 hname, hus⟩
    · cases hread
  · rintro ⟨name, us, hfields, hname, hus⟩
    refine ⟨_, hfields, ?_⟩
    have hlast := Tree.requiredText?_eq_some_iff.2 ⟨us, rfl, hus⟩
    simp [Tree.optionalText?_eq_some_iff.2 hname, hlast]

/-! ## What a reply delivers -/

/-- The status of a reply, if it has one, is one of those that come with a body. -/
def Reply.MayHaveBody : Reply → Prop
  | .answer status _ _ => Http.carriesBody status = true
  | .unreachable | .dropped => True

theorem Http.isSuccess_iff {code : Nat} : isSuccess code = true ↔ 200 ≤ code ∧ code ≤ 299 := by
  rw [isSuccess, Bool.and_eq_true, decide_eq_true_iff, decide_eq_true_iff]
  omega

namespace Listing

variable {α : Type}

/-- The bytes of a body are a text that is an array of these items, in this order. -/
def Lists (decoded : α → Tree → Prop) (items : List α) (body : List UInt8) : Prop :=
  ∃ ts, (Tree.array ts).Spells (Utf8.decodeLossy body) ∧ List.Forall₂ decoded items ts

/-- The server at an address is asked for a listing under this URL. -/
def Requests (listing : Listing) (server : String) (url : Http.Url) : Prop :=
  (Http.Url.parse? (server ++ listing.path)).map (·.anonymous) = some url ∧
    url.isRequestable = true

/-- A server that is asked for a listing gives a complete answer that reports success
and has these items for its body. -/
def Delivered (listing : Listing) (decoded : α → Tree → Prop) (server : String) (reply : Reply)
    (items : List α) : Prop :=
  (∃ url, listing.Requests server url) ∧ ∃ status body, reply = .answer status body true ∧
    (200 ≤ status ∧ status ≤ 299) ∧ Lists decoded items body

/-- The first thing that keeps a listing from being fetched: the address, the
connection, an incomplete body, the status, and only then what the body holds. -/
inductive FirstFault (listing : Listing) (decoded : α → Tree → Prop) (server : String) :
    Reply → TransportFault → Prop
  | badAddress {reply : Reply} (h : Http.Url.parse? (server ++ listing.path) = none) :
    FirstFault listing decoded server reply .badAddress
  | foreignAddress {reply : Reply} {url : Http.Url}
      (h : Http.Url.parse? (server ++ listing.path) = some url)
      (hforeign : url.anonymous.isRequestable = false) :
    FirstFault listing decoded server reply (.foreignAddress url.anonymous.text)
  | unreachable {url : Http.Url} (h : listing.Requests server url) :
    FirstFault listing decoded server .unreachable (.unanswered url.text)
  | dropped {url : Http.Url} (h : listing.Requests server url) :
    FirstFault listing decoded server .dropped (.unanswered url.text)
  | cutShort {url : Http.Url} {status : Nat} {body : List UInt8} (h : listing.Requests server url) :
    FirstFault listing decoded server (.answer status body false) (.cutShort url.text)
  | status {url : Http.Url} {status : Nat} {body : List UInt8} (h : listing.Requests server url)
      (hstatus : ¬ (200 ≤ status ∧ status ≤ 299)) :
    FirstFault listing decoded server (.answer status body true) (.status status)
  | malformed {url : Http.Url} {status : Nat} {body : List UInt8} (h : listing.Requests server url)
      (hstatus : 200 ≤ status ∧ status ≤ 299) (hbody : ∀ items, ¬ Lists decoded items body) :
    FirstFault listing decoded server (.answer status body true) (.malformedListing listing.noun)

variable {listing : Listing} {item? : Tree → Option α} {decoded : α → Tree → Prop}
variable {server : String} {reply : Reply} {file : File} {items : List α}

/-- A body is read as the items it lists. -/
theorem ofText?_decodeLossy_iff (hitem : ∀ {t item}, item? t = some item ↔ decoded item t)
    {body : List UInt8} :
    ofText? item? (Utf8.decodeLossy body) = some items ↔ Lists decoded items body := by
  have hitems : ∀ ts : List Tree, List.Forall₂ (fun t item => item? t = some item) ts items ↔
      List.Forall₂ decoded items ts := by
    intro ts
    simp only [hitem]
    exact ⟨List.Forall₂.flip, List.Forall₂.flip⟩
  simp only [ofText?_eq_some_iff, Lists, Tree.parse?_eq_some_iff, hitems]

/-- Either a listing is delivered or something is the first that keeps it from
being. -/
theorem delivered_or_firstFault (listing : Listing) (decoded : α → Tree → Prop) (server : String)
    (reply : Reply) : (∃ items, listing.Delivered decoded server reply items) ∨
      ∃ fault, listing.FirstFault decoded server reply fault := by
  cases hparse : Http.Url.parse? (server ++ listing.path) with
  | none => exact Or.inr ⟨_, .badAddress hparse⟩
  | some url =>
    cases hrequest : url.anonymous.isRequestable with
    | false => exact Or.inr ⟨_, .foreignAddress hparse hrequest⟩
    | true =>
      have h : listing.Requests server url.anonymous := ⟨by rw [hparse]; rfl, hrequest⟩
      match reply with
      | .unreachable => exact Or.inr ⟨_, .unreachable h⟩
      | .dropped => exact Or.inr ⟨_, .dropped h⟩
      | .answer status body false => exact Or.inr ⟨_, .cutShort h⟩
      | .answer status body true =>
        by_cases hstatus : 200 ≤ status ∧ status ≤ 299
        · by_cases hbody : ∃ items, Lists decoded items body
          · obtain ⟨items, hitems⟩ := hbody
            exact Or.inl ⟨items, ⟨_, h⟩, status, body, rfl, hstatus, hitems⟩
          · exact Or.inr ⟨_, .malformed h hstatus (not_exists.1 hbody)⟩
        · exact Or.inr ⟨_, .status h hstatus⟩

/-- The body of a complete answer is its text, where the status comes with one. -/
theorem bodyText?_of_carriesBody {status : Nat} {body : List UInt8} {complete : Bool}
    (h : Http.carriesBody status = true) :
    bodyText? status body complete = if complete then some (Utf8.decodeLossy body) else none := by
  rw [bodyText?, if_pos h]

/-- **A listing that is delivered is fetched, and no other is.** -/
theorem fetch_eq_ok_iff_delivered (hbody : reply.MayHaveBody)
    (hitem : ∀ {t item}, item? t = some item ↔ decoded item t) :
    ((listing.fetch item? server reply).run file).result = .ok items ↔
      listing.Delivered decoded server reply items := by
  rw [fetch_eq_ok_iff]
  constructor
  · rintro ⟨hask, status, body, complete, text, rfl, htext, hsuccess, hitems⟩
    rw [bodyText?_of_carriesBody hbody] at htext
    cases complete with
    | false => cases htext
    | true =>
      obtain rfl := Option.some.inj htext
      exact ⟨hask, status, body, rfl, Http.isSuccess_iff.1 hsuccess,
        (ofText?_decodeLossy_iff hitem).1 hitems⟩
  · rintro ⟨hask, status, body, rfl, hstatus, hitems⟩
    exact ⟨hask, status, body, true, _, rfl, bodyText?_of_carriesBody hbody,
      Http.isSuccess_iff.2 hstatus, (ofText?_decodeLossy_iff hitem).2 hitems⟩

/-- **The first fault is the one that is reported.** -/
theorem fetch_of_firstFault (hbody : reply.MayHaveBody)
    (hitem : ∀ {t item}, item? t = some item ↔ decoded item t) {fault : TransportFault}
    (h : listing.FirstFault decoded server reply fault) :
    ((listing.fetch item? server reply).run file).result =
      .error (.transport (server ++ listing.path) fault) := by
  cases h with
  | badAddress h =>
    simp only [fetch, h]
    rfl
  | foreignAddress h hforeign =>
    simp only [fetch, h, Option.map_some, hforeign]
    rfl
  | unreachable h | dropped h =>
    simp only [fetch, h.1, h.2]
    rfl
  | cutShort h =>
    simp only [fetch, h.1, h.2, bodyText?_of_carriesBody hbody]
    rfl
  | status h hstatus =>
    have hfails := mt Http.isSuccess_iff.1 hstatus
    simp only [fetch, h.1, h.2, bodyText?_of_carriesBody hbody, hfails]
    rfl
  | @malformed url status body h hstatus hnone =>
    have hnone' : ofText? item? (Utf8.decodeLossy body) = none :=
      Option.eq_none_iff_forall_ne_some.2 fun items hitems =>
        hnone items ((ofText?_decodeLossy_iff hitem).1 hitems)
    simp only [fetch, h.1, h.2, bodyText?_of_carriesBody hbody, Http.isSuccess_iff.2 hstatus,
      if_true, hnone']
    rfl

theorem fetch_eq_error_iff_firstFault (hbody : reply.MayHaveBody)
    (hitem : ∀ {t item}, item? t = some item ↔ decoded item t) {e : CheckError} :
    ((listing.fetch item? server reply).run file).result = .error e ↔
      ∃ fault, e = .transport (server ++ listing.path) fault ∧
        listing.FirstFault decoded server reply fault := by
  constructor
  · intro h
    rcases listing.delivered_or_firstFault decoded server reply with ⟨items, hitems⟩ | ⟨fault, hfault⟩
    · rw [(fetch_eq_ok_iff_delivered hbody hitem).2 hitems] at h
      cases h
    · rw [fetch_of_firstFault hbody hitem hfault] at h
      exact ⟨fault, (Except.error.inj h).symm, hfault⟩
  · rintro ⟨fault, rfl, hfault⟩
    exact fetch_of_firstFault hbody hitem hfault

end Listing

/-- **A listing is fetched whole or not at all.** Where the reply can have a body,
sessions are fetched exactly if the reply delivers them, all of them and in their
order. Otherwise the fetch fails with an error of the endpoint, and tells the first
thing that is wrong. The same goes for terminals. -/
theorem Server.fetch_whole_or_first_fault (server : Server) (file : File) :
    (server.sessions.MayHaveBody →
      (∀ sessions, (server.fetchSessions.run file).result = .ok sessions ↔
        Listing.sessions.Delivered Session.DecodedFrom server.address server.sessions sessions) ∧
      ∀ e, (server.fetchSessions.run file).result = .error e ↔
        ∃ fault, e = .transport (server.address ++ "/api/sessions") fault ∧
          Listing.sessions.FirstFault Session.DecodedFrom server.address server.sessions fault) ∧
    (server.terminals.MayHaveBody →
      (∀ terminals, (server.fetchTerminals.run file).result = .ok terminals ↔
        Listing.terminals.Delivered Terminal.DecodedFrom server.address server.terminals
          terminals) ∧
      ∀ e, (server.fetchTerminals.run file).result = .error e ↔
        ∃ fault, e = .transport (server.address ++ "/api/terminals") fault ∧
          Listing.terminals.FirstFault Terminal.DecodedFrom server.address server.terminals
            fault) := by
  refine ⟨fun hbody => ⟨fun sessions => ?_, fun e => ?_⟩,
    fun hbody => ⟨fun terminals => ?_, fun e => ?_⟩⟩
  · exact Listing.fetch_eq_ok_iff_delivered hbody Session.ofTree?_eq_some_iff
  · exact Listing.fetch_eq_error_iff_firstFault hbody Session.ofTree?_eq_some_iff
  · exact Listing.fetch_eq_ok_iff_delivered hbody Terminal.ofTree?_eq_some_iff
  · exact Listing.fetch_eq_error_iff_firstFault hbody Terminal.ofTree?_eq_some_iff

/-- Of two sessions the second has a point in its number of connections, so none is
fetched; and a list of terminals under a failing status is not one. -/
theorem Server.fetch_whole_or_first_fault_point :
    let sessions := "[\x7b\"kernel\":\x7b\"execution_state\":\"busy\",\"connections\":1," ++
      "\"last_activity\":\"\"\x7d\x7d,\x7b\"kernel\":\x7b\"execution_state\":\"busy\"," ++
      "\"connections\":1.0,\"last_activity\":\"\"\x7d\x7d]"
    let server : Server := ⟨"http://127.0.0.1:8000", .answer 200 sessions.toUTF8.data.toList true,
      .answer 503 "[]".toUTF8.data.toList true⟩
    server.sessions.MayHaveBody ∧ server.terminals.MayHaveBody ∧
      ∀ file,
        (server.fetchSessions.run file).result =
          .error (.transport "http://127.0.0.1:8000/api/sessions" (.malformedListing "kernel")) ∧
        (server.fetchTerminals.run file).result =
          .error (.transport "http://127.0.0.1:8000/api/terminals" (.status 503)) := by
  intro sessions server
  have hsessions : server.sessions.MayHaveBody := rfl
  have hterminals : server.terminals.MayHaveBody := rfl
  have hrequests : ∃ url, Listing.sessions.Requests server.address url :=
    (show Listing.sessions.Askable server.address by decide +kernel)
  have hrequests' : ∃ url, Listing.terminals.Requests server.address url :=
    (show Listing.terminals.Askable server.address by decide +kernel)
  obtain ⟨url, hrequests⟩ := hrequests
  obtain ⟨url', hrequests'⟩ := hrequests'
  have hread : Listing.ofText? Session.ofTree? (Utf8.decodeLossy sessions.toUTF8.data.toList) =
      none := by
    decide +kernel
  have hnone : ∀ items, ¬ Listing.Lists Session.DecodedFrom items sessions.toUTF8.data.toList := by
    intro items hitems
    rw [(Listing.ofText?_decodeLossy_iff Session.ofTree?_eq_some_iff).2 hitems] at hread
    cases hread
  have hfault : Listing.sessions.FirstFault Session.DecodedFrom server.address server.sessions
      (.malformedListing "kernel") := .malformed hrequests (by decide) hnone
  have hfault' : Listing.terminals.FirstFault Terminal.DecodedFrom server.address
      server.terminals (.status 503) := .status hrequests' (by decide)
  refine ⟨hsessions, hterminals, fun file => ?_⟩
  obtain ⟨hfetch, hfetch'⟩ := server.fetch_whole_or_first_fault file
  exact ⟨((hfetch hsessions).2 _).2 ⟨_, rfl, hfault⟩, ((hfetch' hterminals).2 _).2 ⟨_, rfl, hfault'⟩⟩

end IdleStop
