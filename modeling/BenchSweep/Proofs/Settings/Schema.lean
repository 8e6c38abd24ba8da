import BenchSweep.Proofs.Settings.Spelled

/-! # What mappings spell

    A mapping of a level is read field by field, in the order of the document.  What it
    spells has nothing to do with that order: its entries are known fields, no two of them
    the same, none that is required is missing, and each has a value of the field's type
    (`Level.Admits`); what is spelled has these values, and the defaults of all fields
    that are left out (`Schema.Spells`).  Reading comes to just that, level by level
    (`Schema.decodes`), and so it does for whole documents (`decode_eq_ok_iff`). -/

namespace BenchSweep.Settings

open Yaml

/-! ## Levels -/

/-- Entries that a level admits: fields that it knows, each with a value of its type,
    none of them repeated, and all that are required. -/
structure Level.AdmitsEntries (level : Level) (typed : String → Node → Prop)
    (entries : List (Node × Node)) : Prop where
  known : ∀ e ∈ entries, ∃ name ∈ level.fields, e.1.text? = some name ∧ typed name e.2
  nodup : (entries.map (·.1.text?)).Nodup
  required : ∀ name ∈ level.required, ∃ e ∈ entries, e.1.text? = some name

/-- A node that a level admits. -/
def Level.Admits (level : Level) (typed : String → Node → Prop) (node : Node) : Prop :=
  ∃ entries, entriesOf? node = some entries ∧ level.AdmitsEntries typed entries

/-- A field of a record: how its values are spelled, read and replaced. -/
structure Field (σ : Type) where
  name : String
  Value : Type
  spelling : Spelling Value
  get : σ → Value
  set : σ → Value → σ
  get_set : ∀ a x, get (set a x) = x := by exact fun _ _ => rfl

/-- A node that spells a value for a field. -/
def Field.spells {σ : Type} (f : Field σ) : Node → f.Value → Prop := f.spelling.spells

/-- A level with the record that is read from it, whose fields determine it and do not
    affect each other. -/
structure Schema (σ : Type) where
  level : Level
  start : σ
  read : σ → String → Decoder σ
  fields : List (Field σ)
  names : level.fields = fields.map (·.name)
  nodup_names : (fields.map (·.name)).Nodup
  reads : ∀ f ∈ fields, ∀ acc place node,
    read acc f.name place node = do return f.set acc (← f.spelling.decode place node)
  get_set_ne : ∀ f ∈ fields, ∀ g ∈ fields, f.name ≠ g.name →
    ∀ a x, g.get (f.set a x) = g.get a
  ext : ∀ a b, (∀ f ∈ fields, f.get a = f.get b) → a = b

namespace Schema

variable {σ : Type} (S : Schema σ)

/-- A node that spells what a record has in the field of some name. -/
def Written (raw : σ) (name : String) (node : Node) : Prop :=
  ∃ f ∈ S.fields, f.name = name ∧ f.spells node (f.get raw)

/-- A node that spells the default of the field of some name. -/
def Default (name : String) (node : Node) : Prop := S.Written S.start name node

/-- A field that some entries leave out. -/
def Omitted (entries : List (Node × Node)) (name : String) : Prop :=
  ∀ e ∈ entries, e.1.text? ≠ some name

/-- A record that some entries spell: it has their values, and the defaults of the fields
    that they leave out. -/
structure Reads (entries : List (Node × Node)) (raw : σ) : Prop where
  admits : S.level.AdmitsEntries (S.Written raw) entries
  omitted : ∀ f ∈ S.fields, Omitted entries f.name → f.get raw = f.get S.start

/-- A node that spells a record. -/
def Spells (node : Node) (raw : σ) : Prop :=
  ∃ entries, entriesOf? node = some entries ∧ S.Reads entries raw

variable {S} {f g : Field σ} {raw acc : σ} {entries : List (Node × Node)}

/-! ## Fields -/

/-- A field of the level is known by its name. -/
theorem mem_fields_iff {name : String} :
    name ∈ S.level.fields ↔ ∃ f ∈ S.fields, f.name = name := by
  rw [S.names]
  exact List.mem_map

theorem eq_of_name_eq (hf : f ∈ S.fields) (hg : g ∈ S.fields) (h : f.name = g.name) : f = g :=
  List.inj_on_of_nodup_map S.nodup_names hf hg h

theorem written_iff (hf : f ∈ S.fields) {node : Node} :
    S.Written raw f.name node ↔ f.spells node (f.get raw) := by
  constructor
  · rintro ⟨g, hg, hname, hspells⟩
    obtain rfl := eq_of_name_eq hg hf hname
    exact hspells
  · intro hspells
    exact ⟨f, hf, rfl, hspells⟩

/-- What a record has already can be put into it. -/
theorem set_get (hf : f ∈ S.fields) (a : σ) : f.set a (f.get a) = a := by
  refine S.ext _ _ ?_
  intro g hg
  by_cases h : f.name = g.name
  · obtain rfl := eq_of_name_eq hf hg h
    exact f.get_set ..
  · exact S.get_set_ne f hf g hg h ..

/-! ## Entries -/

variable (S) in
/-- What is read of entries after the fields that have been seen have made `acc`. -/
structure ReadsAfter (seen : List String) (acc : σ) (entries : List (Node × Node)) (raw : σ) :
    Prop where
  known : ∀ e ∈ entries, ∃ f ∈ S.fields, e.1.text? = some f.name ∧ f.spells e.2 (f.get raw)
  nodup : (entries.map (·.1.text?)).Nodup
  fresh : ∀ name ∈ seen, Omitted entries name
  required : ∀ name ∈ S.level.required, name ∈ seen ∨ ∃ e ∈ entries, e.1.text? = some name
  omitted : ∀ f ∈ S.fields, Omitted entries f.name → f.get raw = f.get acc

theorem reads_iff : S.Reads entries raw ↔ S.ReadsAfter [] S.start entries raw := by
  have hknown : ∀ e : Node × Node,
      (∃ name ∈ S.level.fields, e.1.text? = some name ∧ S.Written raw name e.2) ↔
        ∃ f ∈ S.fields, e.1.text? = some f.name ∧ f.spells e.2 (f.get raw) := by
    intro e
    constructor
    · rintro ⟨name, -, hkey, f, hf, rfl, hspells⟩
      exact ⟨f, hf, hkey, hspells⟩
    · rintro ⟨f, hf, hkey, hspells⟩
      exact ⟨f.name, mem_fields_iff.mpr ⟨f, hf, rfl⟩, hkey, f, hf, rfl, hspells⟩
  constructor
  · rintro ⟨⟨hall, hnodup, hrequired⟩, homitted⟩
    exact ⟨fun e he => (hknown e).mp (hall e he), hnodup, (fun _ h => nomatch h),
      fun name hname => .inr (hrequired name hname), homitted⟩
  · rintro ⟨hall, hnodup, -, hrequired, homitted⟩
    refine ⟨⟨fun e he => (hknown e).mpr (hall e he), hnodup, ?_⟩, homitted⟩
    intro name hname
    exact (hrequired name hname).resolve_left (List.not_mem_nil)

/-- After all entries what has been read is the record. -/
theorem readsAfter_nil_iff {seen : List String} :
    S.ReadsAfter seen acc [] raw ↔ (∀ name ∈ S.level.required, name ∈ seen) ∧ acc = raw := by
  constructor
  · rintro ⟨-, -, -, hrequired, homitted⟩
    refine ⟨?_, S.ext _ _ fun f hf => (homitted f hf nofun).symm⟩
    intro name hname
    exact (hrequired name hname).resolve_right fun ⟨e, he, _⟩ => nomatch he
  · rintro ⟨hrequired, rfl⟩
    exact ⟨nofun, List.nodup_nil, (fun _ _ => nofun), fun name hname => .inl (hrequired name hname),
      fun f _ _ => rfl⟩

/-- The first entry is one of a field that has not been seen, and goes into it. -/
theorem readsAfter_cons_iff {seen : List String} {e : Node × Node} :
    S.ReadsAfter seen acc (e :: entries) raw ↔
      ∃ f ∈ S.fields, e.1.text? = some f.name ∧ f.name ∉ seen ∧
        ∃ x, f.spells e.2 x ∧ S.ReadsAfter (f.name :: seen) (f.set acc x) entries raw := by
  constructor
  · rintro ⟨hknown, hnodup, hfresh, hrequired, homitted⟩
    obtain ⟨⟨f, hf, hkey, hspells⟩, hknown⟩ := List.forall_mem_cons.mp hknown
    rw [List.map_cons, hkey] at hnodup
    obtain ⟨hnew, hnodup⟩ := List.nodup_cons.mp hnodup
    have hrest : Omitted entries f.name := fun e' he' h => hnew (List.mem_map.mpr ⟨e', he', h⟩)
    refine ⟨f, hf, hkey, fun hseen => hfresh _ hseen e List.mem_cons_self hkey, f.get raw, hspells,
      hknown, hnodup, ?_, ?_, ?_⟩
    · refine List.forall_mem_cons.mpr ⟨hrest, ?_⟩
      intro name hname e' he'
      exact hfresh name hname e' (List.mem_cons_of_mem _ he')
    · intro name hname
      rcases hrequired name hname with hseen | ⟨e', he', hkey'⟩
      · exact .inl (List.mem_cons_of_mem _ hseen)
      · rcases List.mem_cons.mp he' with rfl | he'
        · exact .inl (List.mem_cons.mpr (.inl (Option.some.inj (hkey'.symm.trans hkey))))
        · exact .inr ⟨e', he', hkey'⟩
    · intro g hg hg'
      by_cases hname : f.name = g.name
      · obtain rfl := eq_of_name_eq hf hg hname
        exact (f.get_set ..).symm
      · rw [S.get_set_ne f hf g hg hname]
        refine homitted g hg (List.forall_mem_cons.mpr ⟨?_, hg'⟩)
        intro h
        exact hname (Option.some.inj (hkey.symm.trans h))
  · rintro ⟨f, hf, hkey, hseen, x, hspells, hknown, hnodup, hfresh, hrequired, homitted⟩
    obtain ⟨hrest, hfresh⟩ := List.forall_mem_cons.mp hfresh
    have hget : f.get raw = x := (homitted f hf hrest).trans (f.get_set ..)
    refine ⟨List.forall_mem_cons.mpr ⟨⟨f, hf, hkey, hget ▸ hspells⟩, hknown⟩, ?_, ?_, ?_, ?_⟩
    · rw [List.map_cons, hkey]
      refine List.nodup_cons.mpr ⟨?_, hnodup⟩
      intro h
      obtain ⟨e', he', h⟩ := List.mem_map.mp h
      exact hrest e' he' h
    · intro name hname
      refine List.forall_mem_cons.mpr ⟨?_, hfresh name hname⟩
      intro h
      exact hseen (Option.some.inj (hkey.symm.trans h) ▸ hname)
    · intro name hname
      rcases hrequired name hname with h | ⟨e', he', hkey'⟩
      · rcases List.mem_cons.mp h with rfl | h
        · exact .inr ⟨e, List.mem_cons_self, hkey⟩
        · exact .inl h
      · exact .inr ⟨e', List.mem_cons_of_mem _ he', hkey'⟩
    · intro g hg hg'
      obtain ⟨hne, hg'⟩ := List.forall_mem_cons.mp hg'
      have hname : f.name ≠ g.name := fun h => hne (h ▸ hkey)
      rw [homitted g hg hg', S.get_set_ne f hf g hg hname]

/-! ## Reading -/

theorem run_keyName_iff {place : Place} {key : Node} (htree : key.isTree = true) {n m : Nat}
    {name : String} {mark : Mark} : (keyName place key).run n = .ok ((name, mark), m) ↔
      (key.text? = some name ∧ mark = key.mark) ∧ m = n := by
  rw [keyName, follow_of_isTree htree, pure_bind]
  cases key with
  | scalar mark' tag? style s =>
      rw [run_pure_iff, Prod.mk.injEq, Node.text?, Option.some.injEq, Node.mark,
        eq_comm (a := mark)]
  | sequence _ _ _ => simp [run_problem, Node.text?]
  | mapping _ _ _ => simp [run_problem, Node.text?]
  | _ => exact absurd htree Bool.false_ne_true

/-- A problem in one case leaves the other one. -/
theorem run_ite_problem_iff {α : Type} {c : Bool} {location : Location} {mark : Mark}
    {cause : Mismatch} {f : Unit → Decoding α} {x : Decoding α} {n : Nat} {r : α × Nat} :
    (if c then problem location mark cause >>= f else x).run n = .ok r ↔
      c = false ∧ x.run n = .ok r := by
  cases c with
  | true => exact ⟨nofun, nofun⟩
  | false => exact (and_iff_right rfl).symm

/-- A value is read by the decoder of its field. -/
theorem run_read_iff (hf : f ∈ S.fields) {place : Place} {value : Node}
    (htree : value.isTree = true) {n m : Nat} :
    (S.read acc f.name place value).run n = .ok (raw, m) ↔
      (∃ x, f.spells value x ∧ f.set acc x = raw) ∧ m = n := by
  rw [S.reads f hf]
  simp only [Field.spells, run_bind_iff, f.spelling.decodes place value _ _ _ htree, run_pure_iff]
  constructor
  · rintro ⟨x, k, ⟨hspells, rfl⟩, hset, rfl⟩
    exact ⟨⟨x, hspells, hset⟩, rfl⟩
  · rintro ⟨⟨x, hspells, hset⟩, rfl⟩
    exact ⟨x, m, ⟨hspells, rfl⟩, hset, rfl⟩

/-- Reading entries one after the other makes the record that they spell. -/
theorem run_readFields_iff {place : Place} {mark : Mark}
    (htrees : ∀ e ∈ entries, e.1.isTree = true ∧ e.2.isTree = true) {seen : List String}
    {n m : Nat} : (readFields S.level S.read place mark seen acc entries).run n = .ok (raw, m) ↔
      S.ReadsAfter seen acc entries raw ∧ m = n := by
  induction entries generalizing seen acc n m with
  | nil =>
      rw [readsAfter_nil_iff, readFields]
      cases hmissing : S.level.required.find? fun f => !seen.contains f with
      | none =>
          have hall : ∀ name ∈ S.level.required, name ∈ seen := by
            simpa using hmissing
          rw [run_pure_iff]
          exact and_congr_left' ⟨fun h => ⟨hall, h⟩, And.right⟩
      | some name =>
          have hmem := List.mem_of_find?_eq_some hmissing
          have hseen : name ∉ seen := by simpa using List.find?_some hmissing
          simp only [run_problem, false_iff]
          rintro ⟨⟨hall, -⟩, -⟩
          exact hseen (hall name hmem)
  | cons e entries ih =>
      obtain ⟨key, value⟩ := e
      obtain ⟨⟨hkey, hvalue⟩, htrees⟩ := List.forall_mem_cons.mp htrees
      have hknown : ∀ name, (!S.level.fields.contains name) = false ↔
          ∃ f ∈ S.fields, f.name = name := by
        intro name
        rw [← mem_fields_iff]
        simp
      have hnew : ∀ name, seen.contains name = false ↔ name ∉ seen := by simp
      rw [readsAfter_cons_iff, readFields, run_bind_iff]
      simp only [Prod.exists, run_keyName_iff hkey, run_ite_problem_iff, hknown, hnew]
      constructor
      · rintro ⟨name, keyAt, k, ⟨⟨hname, -⟩, rfl⟩, ⟨f, hf, rfl⟩, hseen, hbody⟩
        obtain ⟨acc', k', hread, hlater⟩ := run_bind_iff.mp hbody
        obtain ⟨⟨x, hspells, rfl⟩, rfl⟩ := (run_read_iff hf hvalue).mp hread
        obtain ⟨hrest, rfl⟩ := (ih htrees).mp hlater
        exact ⟨⟨f, hf, hname, hseen, x, hspells, hrest⟩, rfl⟩
      · rintro ⟨⟨f, hf, hname, hseen, x, hspells, hrest⟩, rfl⟩
        refine ⟨f.name, key.mark, m, ⟨⟨hname, rfl⟩, rfl⟩, ⟨f, hf, rfl⟩, hseen, ?_⟩
        refine run_bind_iff.mpr ⟨f.set acc x, m, ?_, (ih htrees).mpr ⟨hrest, rfl⟩⟩
        exact (run_read_iff hf hvalue).mpr ⟨⟨x, hspells, rfl⟩, rfl⟩

/-- **A MAPPING OF A LEVEL** is read as the record that it spells. -/
theorem decodes : Decodes (mapping S.level S.start S.read) S.Spells := by
  intro place node n raw m htree
  rw [mapping, follow_of_isTree htree, pure_bind, Spells]
  cases node with
  | mapping mark tag? entries =>
      have htrees := entriesAreTrees_iff.mp htree
      simp only [run_readFields_iff htrees, ← reads_iff, entriesOf?, Option.some.injEq,
        exists_eq_left']
  | scalar mark tag? style s =>
      dsimp only [entriesOf?]
      split
      · simp only [run_readFields_iff (List.forall_mem_nil _), ← reads_iff, Option.some.injEq,
          exists_eq_left']
      · simp [refuse, run_problem]
  | sequence _ _ _ => simp [refuse, run_problem, entriesOf?]
  | _ => exact absurd htree Bool.false_ne_true

/-- What is spelled has nothing to do with marks. -/
theorem markless : Markless S.Spells := by
  have hentries : ∀ entries raw,
      S.ReadsAfter [] S.start (entries.map (Prod.map Node.unmarked Node.unmarked)) raw ↔
        S.ReadsAfter [] S.start entries raw := by
    intro entries
    generalize ([] : List String) = seen
    generalize S.start = acc
    induction entries generalizing seen acc with
    | nil => exact fun _ => Iff.rfl
    | cons e entries ih =>
        intro raw
        rw [List.map_cons, readsAfter_cons_iff, readsAfter_cons_iff]
        simp only [Prod.map, Node.text?_unmarked, ih]
        refine exists_congr fun f => and_congr_right fun _ => ?_
        simp only [Field.spells, f.spelling.markless _ _]
  intro node raw
  rw [Spells, Spells, entriesOf?_unmarked]
  cases entriesOf? node with
  | none => rfl
  | some entries =>
      simp only [Option.map_some, Option.some.injEq, exists_eq_left', reads_iff, hentries]

/-- Values for fields that differ make a record. -/
theorem exists_reads (acc : σ)
    (hknown : ∀ e ∈ entries, ∃ f ∈ S.fields, e.1.text? = some f.name ∧ ∃ x, f.spells e.2 x)
    (hnodup : (entries.map (·.1.text?)).Nodup) :
    ∃ raw, (∀ e ∈ entries, ∃ f ∈ S.fields, e.1.text? = some f.name ∧ f.spells e.2 (f.get raw)) ∧
      ∀ f ∈ S.fields, Omitted entries f.name → f.get raw = f.get acc := by
  induction entries generalizing acc with
  | nil => exact ⟨acc, nofun, fun _ _ _ => rfl⟩
  | cons e entries ih =>
      obtain ⟨⟨f, hf, hkey, x, hspells⟩, hknown⟩ := List.forall_mem_cons.mp hknown
      rw [List.map_cons, hkey] at hnodup
      obtain ⟨hnew, hnodup⟩ := List.nodup_cons.mp hnodup
      have hrest : Omitted entries f.name := fun e' he' h => hnew (List.mem_map.mpr ⟨e', he', h⟩)
      obtain ⟨raw, hwritten, homitted⟩ := ih (f.set acc x) hknown hnodup
      have hget : f.get raw = x := (homitted f hf hrest).trans (f.get_set ..)
      refine ⟨raw, List.forall_mem_cons.mpr ⟨⟨f, hf, hkey, hget ▸ hspells⟩, hwritten⟩, ?_⟩
      intro g hg hg'
      obtain ⟨hne, hg'⟩ := List.forall_mem_cons.mp hg'
      have hname : f.name ≠ g.name := fun h => hne (h ▸ hkey)
      rw [homitted g hg hg', S.get_set_ne f hf g hg hname]

/-- A level admits the nodes that spell a record. -/
theorem exists_spells_iff {typed : String → Node → Prop}
    (htyped : ∀ f ∈ S.fields, ∀ value, typed f.name value ↔ ∃ x, f.spells value x) (node : Node) :
    (∃ raw, S.Spells node raw) ↔ S.level.Admits typed node := by
  constructor
  · rintro ⟨raw, entries, hentries, ⟨hknown, hnodup, hrequired⟩, -⟩
    refine ⟨entries, hentries, ?_, hnodup, hrequired⟩
    intro e he
    obtain ⟨name, hname, hkey, f, hf, rfl, hspells⟩ := hknown e he
    exact ⟨f.name, hname, hkey, (htyped f hf _).mpr ⟨_, hspells⟩⟩
  · rintro ⟨entries, hentries, hknown, hnodup, hrequired⟩
    have hfields : ∀ e ∈ entries,
        ∃ f ∈ S.fields, e.1.text? = some f.name ∧ ∃ x, f.spells e.2 x := by
      intro e he
      obtain ⟨name, hname, hkey, htype⟩ := hknown e he
      obtain ⟨f, hf, rfl⟩ := mem_fields_iff.mp hname
      exact ⟨f, hf, hkey, (htyped f hf _).mp htype⟩
    obtain ⟨raw, hwritten, homitted⟩ := exists_reads S.start hfields hnodup
    refine ⟨raw, entries, hentries, reads_iff.mpr ⟨hwritten, hnodup, nofun, ?_, homitted⟩⟩
    exact fun name hname => .inr (hrequired name hname)

variable (S) in
/-- The records of a level, spelled by mappings. -/
def spelling : Spelling σ := ⟨S.Spells, mapping S.level S.start S.read, S.decodes, S.markless⟩

end Schema

end BenchSweep.Settings
