import IdleStop.Error
import IdleStop.Log
import IdleStop.Text.Utf8
/-!
# Actions

An action computes a result and meanwhile does things others can see: it
sends requests, runs commands, reads the metadata file and writes log
lines. These are its events, in order. It begins with the metadata file as
it stands and leaves it as it stands afterwards; nothing here writes the
file, but a command may delete it.

An action that fails does nothing more: what was to follow it does not
happen.
-/

namespace IdleStop

/-- What is found at a path. -/
inductive File
  | missing
  | directory
  /-- The path leads through something that is no directory. -/
  | blocked
  /-- The path or a part of it is longer than the system takes. -/
  | overlong
  /-- The path leads through more links than the system follows. -/
  | looped
  /-- The path holds the character that ends paths. -/
  | unnameable
  /-- A file that may not be read. -/
  | locked
  /-- The path leads through a directory that may not be searched. What it
  hides there cannot be told. -/
  | concealed (hidden : File)
  | bytes (content : List UInt8)
  deriving DecidableEq, Repr

namespace File

/-- The text of a file. -/
def readText : File → Except FileFault String
  | missing => .error .missing
  | directory => .error .isDirectory
  | blocked => .error .notDirectory
  | overlong => .error .longName
  | looped => .error .manyLinks
  | unnameable => .error .nulInName
  | locked | concealed _ => .error .denied
  | bytes content =>
    match Utf8.decode? content with
    | some text => .ok text
    | none => .error .notText

/-- Whether the system shows anything at the path. It does not where it may
not look. -/
def present : File → Bool
  | directory | locked | bytes _ => true
  | _ => false

end File

/-- A request to the notebook server or a command line. -/
inductive Call
  /-- A request for the resource at a path. -/
  | get (path : String)
  /-- A run of the command line tool with these arguments. -/
  | command (args : List String)
  deriving DecidableEq, Repr

/-- Something an action does. -/
inductive Event
  /-- A call is attempted, and either reaches its destination or not. -/
  | call (c : Call) (delivered : Bool)
  /-- The metadata file is read. -/
  | metadataRead
  | logged (line : LogLine)
  deriving DecidableEq, Repr

/-- Events in the order in which they happened. -/
abbrev Trace := List Event

namespace Trace

/-- The calls attempted. -/
def attempts (t : Trace) : List Call :=
  t.filterMap fun
    | .call c _ => some c
    | _ => none

/-- The calls that reached their destination. -/
def calls (t : Trace) : List Call :=
  t.filterMap fun
    | .call c true => some c
    | _ => none

/-- The log lines. -/
def log (t : Trace) : List LogLine :=
  t.filterMap fun
    | .logged line => some line
    | _ => none

@[simp] theorem attempts_append (t t' : Trace) :
    attempts (t ++ t') = attempts t ++ attempts t' :=
  List.filterMap_append

@[simp] theorem calls_append (t t' : Trace) : calls (t ++ t') = calls t ++ calls t' :=
  List.filterMap_append

@[simp] theorem log_append (t t' : Trace) : log (t ++ t') = log t ++ log t' :=
  List.filterMap_append

end Trace

/-- What an action came to. -/
structure Outcome (α : Type) where
  result : Except CheckError α
  events : Trace
  /-- The metadata file afterwards. -/
  metadata : File

/-- Computes a result from the metadata file as it stands. -/
def Action (α : Type) := File → Outcome α

namespace Action

variable {α β : Type}

/-- What an action comes to when it begins with a metadata file. -/
def run (x : Action α) (metadata : File) : Outcome α :=
  x metadata

instance : Monad Action where
  pure a := fun file => ⟨.ok a, [], file⟩
  bind x k := fun file =>
    let o := x file
    match o.result with
    | .error e => ⟨.error e, o.events, o.metadata⟩
    | .ok a =>
      let o' := k a o.metadata
      ⟨o'.result, o.events ++ o'.events, o'.metadata⟩

/-- Does one thing. -/
def emit (e : Event) : Action Unit :=
  fun file => ⟨.ok (), [e], file⟩

/-- Writes a log line. -/
def log (source : LogSource) (level : LogLevel) (text : String) : Action Unit :=
  emit (.logged ⟨source, level, text⟩)

/-- Ends in an error. -/
def fail (e : CheckError) : Action α :=
  fun file => ⟨.error e, [], file⟩

/-- Ends in a result computed elsewhere. -/
def ofExcept (r : Except CheckError α) : Action α :=
  fun file => ⟨r, [], file⟩

/-- Reads the metadata file. -/
def readMetadata : Action File :=
  fun file => ⟨.ok file, [.metadataRead], file⟩

/-- Deletes the metadata file. -/
def deleteMetadata : Action Unit :=
  fun _ => ⟨.ok (), [], .missing⟩

@[simp] theorem run_pure (a : α) (file : File) :
    (pure a : Action α).run file = ⟨.ok a, [], file⟩ :=
  rfl

/-- What follows an action that succeeds begins where it ended. -/
theorem run_bind_of_ok {x : Action α} {k : α → Action β} {file : File} {a : α}
    (h : (x.run file).result = .ok a) :
    (x >>= k).run file =
      ⟨((k a).run (x.run file).metadata).result,
        (x.run file).events ++ ((k a).run (x.run file).metadata).events,
        ((k a).run (x.run file).metadata).metadata⟩ := by
  have h' : (x file).result = .ok a := h
  simp [run, bind, h']

/-- Nothing follows an action that fails. -/
theorem run_bind_of_error {x : Action α} {k : α → Action β} {file : File} {e : CheckError}
    (h : (x.run file).result = .error e) :
    (x >>= k).run file = ⟨.error e, (x.run file).events, (x.run file).metadata⟩ := by
  have h' : (x file).result = .error e := h
  simp [run, bind, h']

end Action

end IdleStop
