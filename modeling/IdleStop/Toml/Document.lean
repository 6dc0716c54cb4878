import IdleStop.Toml.Statement
/-!
# TOML documents

The statements of a document build its table one after the other. An
assignment adds to the table of the last header before it, or to the
document itself if there is none. A statement that would change what stands
already makes the whole document wrong.
-/

namespace IdleStop

namespace Toml

/-- A document up to some statement. -/
structure Document where
  members : Members
  /-- The table of the last header. -/
  current : Option Path

namespace Document

/-- A document without statements. -/
def empty : Document :=
  ⟨[], none⟩

/-- A document after one more statement. -/
def add (d : Document) : Statement → Option Document
  | .header path =>
    (d.members.define path.name Members.opened path.parents).map fun ms => ⟨ms, some path⟩
  | .repeatedHeader path =>
    (d.members.define path.name Members.repeated path.parents).map fun ms => ⟨ms, some path⟩
  | .assignment path v =>
    match d.current with
    | none => (d.members.assign path.name v path.parents).map fun ms => ⟨ms, none⟩
    | some table =>
      (d.members.define table.name (Members.extended path v) table.parents).map fun ms =>
        ⟨ms, some table⟩

/-- The table that a text writes. -/
def parse? (s : String) : Option Members := do
  let tokens ← Token.scan? s.toList
  let statements ← Statement.listOf? tokens
  let document ← statements.foldlM add empty
  return document.members

end Document

end Toml

end IdleStop
