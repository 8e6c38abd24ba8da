import BenchSweep.Suite.Catalog
import BenchSweep.Path

/-! # The built-in catalog

    The suites that a run goes through when the settings list none: concurrent
    sets as a linked list, a tree and a skip list, each under several memory
    reclamation schemes. -/

namespace BenchSweep

/-- A variant of the built-in catalog. -/
def builtinVariant (name label : String) (valid : IsName name := by decide +kernel) : Variant :=
  { name := ⟨name, valid⟩, label }

/-- A suite of the built-in catalog: its executable has its name. -/
def builtinSuite (binDir name : String) (keys : UInt64) (variants : List Variant)
    (valid : IsName name := by decide +kernel) : Suite :=
  { name := ⟨name, valid⟩
    executable := Path.join binDir name
    encoding := .flags
    keys := some keys
    marker := defaultMarker
    variants }

/-- The built-in catalog, its executables below `binDir`. -/
def Catalog.builtin (binDir : String) : Catalog :=
  ⟨[builtinSuite binDir "set-ll-1k" 1000
      [builtinVariant "mh-hp" "Michael-Harris with Hazard Pointers",
       builtinVariant "mh-ptb" "Michael-Harris with Pass The Buck",
       builtinVariant "mh-ptp" "Michael-Harris with Pass The Pointer",
       builtinVariant "mh-ttp" "Michael-Harris with Tag The Pointer",
       builtinVariant "mh-orc" "Michael-Harris with OrcGC",
       builtinVariant "ho-orc" "Harris original with OrcGC",
       builtinVariant "hsh-orc" "Herlihy-Shavit-Harris with OrcGC",
       builtinVariant "tbkp-orc" "Timnat-Braginsky-Kogan-Petrank with OrcGC"],
    builtinSuite binDir "set-tree-1m" 1000000
      [builtinVariant "nata-hp" "Natarajan-Mittal with Hazard Pointers",
       builtinVariant "nata-ptb" "Natarajan-Mittal with Pass The Buck",
       builtinVariant "nata-ptp" "Natarajan-Mittal with Pass The Pointer",
       builtinVariant "nata-ttp" "Natarajan-Mittal with Tag The Pointer",
       builtinVariant "nata-orc" "Natarajan-Mittal with OrcGC"],
    builtinSuite binDir "set-skiplist-1m" 1000000
      [builtinVariant "hsskip-orcorig" "Original Herlihy-Shavit skiplist with OrcGC",
       builtinVariant "hsskip-orc" "Herlihy-Shavit skiplist with poison and OrcGC"]]⟩

end BenchSweep
