import BenchSweep.Proofs.Settings.Schema

/-! # Documents that conform

    The five levels of a settings file are schemas: the whole document, the sweep, the
    runner, suites and variants.  A document conforms if every level of it admits what is
    written there (`Conforms`), which is a condition on its tree alone.  Just the trees
    that conform are decoded, and as the settings that they spell (`decode_eq_ok_iff`). -/

namespace BenchSweep.Settings

open Yaml

/-! ## The levels -/

/-- Sweeps. -/
def sweepSchema : Schema RawSweep where
  level := sweepLevel
  start := {}
  read := readSweepField
  fields :=
    [{ name := "duration_secs", Value := UInt64, spelling := .word64
       get := (·.durationSecs), set := fun r x => { r with durationSecs := x } },
     { name := "runs", Value := UInt32, spelling := .word32
       get := (·.runs), set := fun r x => { r with runs := x } },
     { name := "threads", Value := List UInt32, spelling := .list .word32
       get := (·.threads), set := fun r x => { r with threads := x } },
     { name := "ratios", Value := List UInt32, spelling := .list .word32
       get := (·.ratios), set := fun r x => { r with ratios := x } }]
  names := rfl
  nodup_names := by decide
  reads := by
    simp only [List.forall_mem_cons]
    exact ⟨fun _ _ _ => rfl, fun _ _ _ => rfl, fun _ _ _ => rfl, fun _ _ _ => rfl, nofun⟩
  get_set_ne := by simp
  ext := by
    rintro ⟨_, _, _, _⟩ ⟨_, _, _, _⟩
    simp

/-- Runner settings. -/
def runnerSchema : Schema RawRunner where
  level := runnerLevel
  start := {}
  read := readRunnerField
  fields :=
    [{ name := "bin_dir", Value := String, spelling := .text
       get := (·.binDir), set := fun r x => { r with binDir := x } },
     { name := "work_dir", Value := Option String, spelling := .option .text
       get := (·.workDir?), set := fun r x => { r with workDir? := x } },
     { name := "timeout_multiplier", Value := UInt32, spelling := .word32
       get := (·.timeoutMultiplier), set := fun r x => { r with timeoutMultiplier := x } },
     { name := "min_successes", Value := UInt32, spelling := .word32
       get := (·.minSuccesses), set := fun r x => { r with minSuccesses := x } }]
  names := rfl
  nodup_names := by decide
  reads := by
    simp only [List.forall_mem_cons]
    exact ⟨fun _ _ _ => rfl, fun _ _ _ => rfl, fun _ _ _ => rfl, fun _ _ _ => rfl, nofun⟩
  get_set_ne := by simp
  ext := by
    rintro ⟨_, _, _, _⟩ ⟨_, _, _, _⟩
    simp

/-- Variants. -/
def variantSchema : Schema RawVariant where
  level := variantLevel
  start := { name := "" }
  read := readVariantField
  fields :=
    [{ name := "name", Value := String, spelling := .text
       get := (·.name), set := fun r x => { r with name := x } },
     { name := "label", Value := String, spelling := .text
       get := (·.label), set := fun r x => { r with label := x } }]
  names := rfl
  nodup_names := by decide
  reads := by
    simp only [List.forall_mem_cons]
    exact ⟨fun _ _ _ => rfl, fun _ _ _ => rfl, nofun⟩
  get_set_ne := by simp
  ext := by
    rintro ⟨_, _⟩ ⟨_, _⟩
    simp

/-- Suites. -/
def suiteSchema : Schema RawSuite where
  level := suiteLevel
  start := { name := "", variants := [] }
  read := readSuiteField
  fields :=
    [{ name := "name", Value := String, spelling := .text
       get := (·.name), set := fun r x => { r with name := x } },
     { name := "executable", Value := Option String, spelling := .option .text
       get := (·.executable?), set := fun r x => { r with executable? := x } },
     { name := "encoding", Value := Encoding, spelling := .encoding
       get := (·.encoding), set := fun r x => { r with encoding := x } },
     { name := "keys", Value := Option UInt64, spelling := .option .word64
       get := (·.keys?), set := fun r x => { r with keys? := x } },
     { name := "throughput_marker", Value := Option String, spelling := .option .text
       get := (·.marker?), set := fun r x => { r with marker? := x } },
     { name := "variants", Value := List RawVariant, spelling := .list variantSchema.spelling
       get := (·.variants), set := fun r x => { r with variants := x } }]
  names := rfl
  nodup_names := by decide
  reads := by
    simp only [List.forall_mem_cons]
    exact ⟨fun _ _ _ => rfl, fun _ _ _ => rfl, fun _ _ _ => rfl, fun _ _ _ => rfl,
      fun _ _ _ => rfl, fun _ _ _ => rfl, nofun⟩
  get_set_ne := by simp
  ext := by
    rintro ⟨_, _, _, _, _, _⟩ ⟨_, _, _, _, _, _⟩
    simp

/-- Whole documents. -/
def configSchema : Schema RawConfig where
  level := configLevel
  start := {}
  read := readConfigField
  fields :=
    [{ name := "sweep", Value := RawSweep, spelling := sweepSchema.spelling
       get := (·.sweep), set := fun r x => { r with sweep := x } },
     { name := "runner", Value := RawRunner, spelling := runnerSchema.spelling
       get := (·.runner), set := fun r x => { r with runner := x } },
     { name := "suites", Value := Option (List RawSuite)
       spelling := .option (.list suiteSchema.spelling)
       get := (·.suites?), set := fun r x => { r with suites? := x } }]
  names := rfl
  nodup_names := by decide
  reads := by
    simp only [List.forall_mem_cons]
    exact ⟨fun _ _ _ => rfl, fun _ _ _ => rfl, fun _ _ _ => rfl, nofun⟩
  get_set_ne := by simp
  ext := by
    rintro ⟨_, _, _⟩ ⟨_, _, _⟩
    simp

/-! ## The types of values -/

/-- A scalar, whatever it looks like. -/
def IsText (node : Node) : Prop := ∃ text, SpellsText node text

/-- A number below `2 ^ 64`. -/
def IsWord64 (node : Node) : Prop := ∃ n, SpellsWord64 node n

/-- A number below `2 ^ 32`. -/
def IsWord32 (node : Node) : Prop := ∃ n, SpellsWord32 node n

/-- The name of an encoding. -/
def IsEncoding (node : Node) : Prop := ∃ e, SpellsEncoding node e

/-- Nothing, or what is typed. -/
def IsOption (typed : Node → Prop) (node : Node) : Prop :=
  spellsNothing node = true ∨ standsForNothing node = false ∧ typed node

/-- A list of what is typed. -/
def IsList (typed : Node → Prop) (node : Node) : Prop :=
  ∃ items, itemsOf? node = some items ∧ ∀ item ∈ items, typed item

section Compound

variable {α : Type} {R : Node → α → Prop} {typed : Node → Prop}
  (h : ∀ node, typed node ↔ ∃ a, R node a)

include h

theorem isOption_iff (node : Node) : IsOption typed node ↔ ∃ a?, SpellsOption R node a? := by
  rw [Option.exists, IsOption, h]
  simp only [SpellsOption, exists_and_left]

theorem isList_iff (node : Node) : IsList typed node ↔ ∃ as, SpellsList R node as := by
  have hitems : ∀ items : List Node,
      (∀ item ∈ items, typed item) ↔ ∃ as, List.Forall₂ R items as := by
    intro items
    induction items with
    | nil => exact ⟨fun _ => ⟨[], .nil⟩, fun _ => nofun⟩
    | cons item rest ih =>
        rw [List.forall_mem_cons, ih, h]
        simp only [List.forall₂_cons_left_iff]
        constructor
        · rintro ⟨⟨a, ha⟩, as, has⟩
          exact ⟨a :: as, a, as, ha, has, rfl⟩
        · rintro ⟨_, a, as, ha, has, -⟩
          exact ⟨⟨a, ha⟩, as, has⟩
  simp only [IsList, SpellsList, hitems]
  constructor
  · rintro ⟨items, hnode, as, has⟩
    exact ⟨as, items, hnode, has⟩
  · rintro ⟨as, items, hnode, has⟩
    exact ⟨items, hnode, as, has⟩

end Compound

/-! ## Conforming documents -/

/-- A variant has a name, and may have a label. -/
def VariantConforms : Node → Prop := variantLevel.Admits fun _ => IsText

/-- A suite has a name and variants; all else may be left out. -/
def SuiteConforms : Node → Prop := suiteLevel.Admits fun
  | "name"              => IsText
  | "executable"        => IsOption IsText
  | "encoding"          => IsEncoding
  | "keys"              => IsOption IsWord64
  | "throughput_marker" => IsOption IsText
  | _                   => IsList VariantConforms

/-- A sweep has numbers and lists of numbers. -/
def SweepConforms : Node → Prop := sweepLevel.Admits fun
  | "duration_secs" => IsWord64
  | "runs"          => IsWord32
  | _               => IsList IsWord32

/-- The runner has two texts and two numbers. -/
def RunnerConforms : Node → Prop := runnerLevel.Admits fun
  | "bin_dir"  => IsText
  | "work_dir" => IsOption IsText
  | _          => IsWord32

/-- **A DOCUMENT CONFORMS** if all mappings in it have just the fields of their levels, none of
    them repeated, all that are required, and each with a value of its type. -/
def Conforms : Node → Prop := configLevel.Admits fun
  | "sweep"  => SweepConforms
  | "runner" => RunnerConforms
  | _        => IsOption (IsList SuiteConforms)

theorem sweepConforms_iff (node : Node) :
    SweepConforms node ↔ ∃ raw, sweepSchema.Spells node raw := by
  refine (sweepSchema.exists_spells_iff ?_ node).symm
  refine List.forall_mem_cons.mpr ⟨fun _ => Iff.rfl, ?_⟩
  refine List.forall_mem_cons.mpr ⟨fun _ => Iff.rfl, ?_⟩
  refine List.forall_mem_cons.mpr ⟨isList_iff fun _ => Iff.rfl, ?_⟩
  exact List.forall_mem_singleton.mpr (isList_iff fun _ => Iff.rfl)

theorem runnerConforms_iff (node : Node) :
    RunnerConforms node ↔ ∃ raw, runnerSchema.Spells node raw := by
  refine (runnerSchema.exists_spells_iff ?_ node).symm
  refine List.forall_mem_cons.mpr ⟨fun _ => Iff.rfl, ?_⟩
  refine List.forall_mem_cons.mpr ⟨isOption_iff fun _ => Iff.rfl, ?_⟩
  refine List.forall_mem_cons.mpr ⟨fun _ => Iff.rfl, ?_⟩
  exact List.forall_mem_singleton.mpr fun _ => Iff.rfl

theorem variantConforms_iff (node : Node) :
    VariantConforms node ↔ ∃ raw, variantSchema.Spells node raw := by
  refine (variantSchema.exists_spells_iff ?_ node).symm
  refine List.forall_mem_cons.mpr ⟨fun _ => Iff.rfl, ?_⟩
  exact List.forall_mem_singleton.mpr fun _ => Iff.rfl

theorem suiteConforms_iff (node : Node) :
    SuiteConforms node ↔ ∃ raw, suiteSchema.Spells node raw := by
  refine (suiteSchema.exists_spells_iff ?_ node).symm
  refine List.forall_mem_cons.mpr ⟨fun _ => Iff.rfl, ?_⟩
  refine List.forall_mem_cons.mpr ⟨isOption_iff fun _ => Iff.rfl, ?_⟩
  refine List.forall_mem_cons.mpr ⟨fun _ => Iff.rfl, ?_⟩
  refine List.forall_mem_cons.mpr ⟨isOption_iff fun _ => Iff.rfl, ?_⟩
  refine List.forall_mem_cons.mpr ⟨isOption_iff fun _ => Iff.rfl, ?_⟩
  exact List.forall_mem_singleton.mpr (isList_iff variantConforms_iff)

theorem conforms_iff (node : Node) : Conforms node ↔ ∃ raw, configSchema.Spells node raw := by
  refine (configSchema.exists_spells_iff ?_ node).symm
  refine List.forall_mem_cons.mpr ⟨sweepConforms_iff, ?_⟩
  refine List.forall_mem_cons.mpr ⟨runnerConforms_iff, ?_⟩
  exact List.forall_mem_singleton.mpr (isOption_iff (isList_iff suiteConforms_iff))

/-- A stream without documents is decoded as an empty tree. -/
theorem decode_eq (document : Document) : decode document
    = ((config { document, location := [], level := [], levelAt := .origin } document.tree).run
        0).map (·.1) := by
  rw [decode, Document.tree]
  cases document.root? with
  | none => rfl
  | some root => rfl

/-- **A DOCUMENT WITHOUT ALIASES** is decoded to what its tree spells. -/
theorem decode_eq_ok_iff {document : Document} (htree : document.tree.isTree = true)
    (raw : RawConfig) : decode document = .ok raw ↔ configSchema.Spells document.tree raw := by
  have hrun := configSchema.decodes { document, location := [], level := [], levelAt := .origin }
    document.tree 0
  rw [decode_eq]
  constructor
  · intro h
    cases hresult : (config { document, location := [], level := [], levelAt := .origin }
        document.tree).run 0 with
    | error problem =>
        rw [hresult] at h
        exact nomatch h
    | ok r =>
        rw [hresult] at h
        obtain rfl := Except.ok.inj h
        exact ((hrun r.1 r.2 htree).mp hresult).1
  · intro h
    exact congrArg (Except.map Prod.fst) ((hrun raw 0 htree).mpr ⟨h, rfl⟩)

end BenchSweep.Settings
