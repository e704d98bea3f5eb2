import Catalog.Field
/-!
This module contains the settings of a reader.
-/

namespace Catalog

inductive DetailLevel where
  | user
  | developer
deriving DecidableEq, Repr, Inhabited

namespace DetailLevel

def name : DetailLevel → String
  | .user => "user"
  | .developer => "developer"

def ofName? : String → Option DetailLevel
  | "user" => some .user
  | "developer" => some .developer
  | _ => none

end DetailLevel

/--
How the records of a document are read. Values are taken as they stand unless `substitute` is set,
and scopes nest at most `maxDepth` deep.
-/
structure Settings where
  substitute : Bool := true
  maxDepth : Nat := 256
  level : DetailLevel := .user
  maxDepth_pos : 1 ≤ maxDepth := by decide
deriving DecidableEq, Repr

instance : Inhabited Settings := ⟨{}⟩

namespace Settings

def maxDepth? (d : Datum) : Except Flaw { n : Nat // 1 ≤ n } :=
  match d.integer? with
  | .ok (.ofNat n) => if h : 1 ≤ n then .ok ⟨n, h⟩ else .error .belowMinimum
  | .ok (.negSucc _) => .error .belowMinimum
  | .error flaw => .error flaw

def level? : Datum → Except Flaw DetailLevel
  | .text s =>
    match DetailLevel.ofName? s with
    | some l => .ok l
    | none => .error .notAChoice
  | _ => .error .notAChoice

def ofFields (fields : Fields) : Checked Settings :=
  let usual : Settings := {}
  let substitute := fields.optional "use_variables" usual.substitute Datum.truth?
  let depth := fields.optional "max_depth" ⟨usual.maxDepth, usual.maxDepth_pos⟩ maxDepth?
  let level := fields.optional "error_level" usual.level level?
  (substitute.and (depth.and level)).map fun (s, n, l) =>
    { substitute := s, maxDepth := n.val, level := l, maxDepth_pos := n.property }

end Settings
end Catalog
