import BenchSweep.Suite.Basic

/-! # Catalogs of suites

    A catalog is the ordered list of suites that a run goes through.  Selecting
    by name keeps the catalog's own order, whatever the order of the names. -/

namespace BenchSweep

/-- An ordered list of suites. -/
structure Catalog where
  suites : List Suite
deriving DecidableEq

namespace Catalog

/-- A catalog from a list of suites: not empty, and all names different. -/
def ofSuites (suites : List Suite) : Except Fault Catalog :=
  if suites.isEmpty then .error (.emptyList .suites)
  else match firstRepeat? (fun s : Suite => s.name) suites with
    | some s => .error (.duplicateSuite s.name.text)
    | none   => .ok ⟨suites⟩

/-- The suite with a given name. -/
def get? (catalog : Catalog) (name : String) : Option Suite :=
  catalog.suites.find? fun s => s.name.text == name

/-- The named suites in catalog order.  The first unknown name is the fault. -/
def select (catalog : Catalog) (names : List String) : Except Fault Catalog :=
  match names.find? fun n => (catalog.get? n).isNone with
  | some n => .error (.unknownSuite n)
  | none   => .ok ⟨catalog.suites.filter fun s => names.contains s.name.text⟩

end Catalog

end BenchSweep
