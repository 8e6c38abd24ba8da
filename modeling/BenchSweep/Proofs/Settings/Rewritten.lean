import BenchSweep.Proofs.Settings.Conforming
import BenchSweep.Proofs.Settings.Criterion
import Mathlib.Logic.Relation

/-! # Documents rewritten

    A settings file can be rewritten without setting anything else: the fields of a mapping
    can come in another order, and a field that is left out can be written out with its
    default.  Some defaults are known only to the checks: that a suite's executable has
    the suite's name, which marker is looked for, and the built-in catalog.  So not all of
    a rewritten file is read as before.  But settings can have all these written out as
    well (`RawConfig.settled`), which makes no difference to the checks
    (`validate_settled`), and in that form all of it is as before
    (`documents_strict_defaults_transparent`). -/

namespace BenchSweep

/-- A suite with its executable and its marker written out. -/
def RawSuite.settled (raw : RawSuite) : RawSuite :=
  { raw with
    executable? := some (raw.executable?.getD raw.name)
    marker? := some (raw.marker?.getD defaultMarker) }

/-- How a suite of the built-in catalog is written. -/
def RawSuite.ofSuite (suite : Suite) : RawSuite :=
  { name := suite.name.text
    encoding := suite.encoding
    keys? := suite.keys
    variants := suite.variants.map fun v => ⟨v.name.text, v.label⟩ }

/-- The built-in catalog as written. -/
def builtinSuites : List RawSuite := (Catalog.builtin "").suites.map RawSuite.ofSuite

/-- Settings with all suites written out. -/
def RawConfig.settled (raw : RawConfig) : RawConfig :=
  { raw with suites? := some ((raw.suites?.getD builtinSuites).map RawSuite.settled) }

namespace Settings

open Yaml

/-! ## Defaults of the checks -/

/-- The name of a suite is a path, and the one that is used if none is written. -/
theorem validateExecutable_getD (name : SuiteName) (binDir : String)
    (executable? : Option String) :
    validateExecutable name binDir (some (executable?.getD name.text))
      = validateExecutable name binDir executable? := by
  cases executable? with
  | none =>
      have hne : name.text ≠ "" := name.valid.1
      exact if_neg hne
  | some path => rfl

theorem validateSuite_settled (binDir : String) (raw : RawSuite) :
    validateSuite binDir raw.settled = validateSuite binDir raw := by
  rw [validateSuite, validateSuite, RawSuite.settled]
  cases hname : Name.ofString .suite raw.name with
  | error fault => rfl
  | ok name =>
      have htext := (Name.ofString_eq_ok_iff _ _ _).mp hname
      dsimp only [bind, Except.bind]
      rw [← htext, validateExecutable_getD]
      rfl

/-- The built-in suites as written hold what the built-in catalog holds. -/
theorem suitesHold_builtin (binDir : String) :
    SuitesHold (Catalog.builtin binDir).suites binDir (some builtinSuites) :=
  .cons ⟨rfl, rfl, rfl, rfl, rfl, rfl⟩ (.cons ⟨rfl, rfl, rfl, rfl, rfl, rfl⟩
    (.cons ⟨rfl, rfl, rfl, rfl, rfl, rfl⟩ .nil))

theorem suitesAcceptable_builtin : SuitesAcceptable (some builtinSuites) := by
  refine ⟨List.cons_ne_nil _ _, by decide, ?_⟩
  intro raw hraw
  obtain ⟨suite, hsuite, rfl⟩ := List.mem_map.mp hraw
  have hlisted : ∀ s ∈ (Catalog.builtin "").suites,
      s.variants ≠ [] ∧ (s.variants.map (·.name.text)).Nodup := by
    decide
  obtain ⟨hne, hnodup⟩ := hlisted suite hsuite
  refine ⟨(Name.exists_text_iff .suite _).mp ⟨_, rfl⟩, nofun, nofun, ?_, ?_, ?_⟩
  · simpa [RawSuite.ofSuite] using hne
  · intro v hv
    obtain ⟨v', -, rfl⟩ := List.mem_map.mp hv
    exact (Name.exists_text_iff .variant _).mp ⟨v'.name, rfl⟩
  · rw [RawSuite.ofSuite, List.map_map]
    exact hnodup

theorem validateCatalog_settled (binDir : String) (raws? : Option (List RawSuite)) :
    validateCatalog binDir (some ((raws?.getD builtinSuites).map RawSuite.settled))
      = validateCatalog binDir raws? := by
  have hsettled : ∀ raws : List RawSuite,
      validateCatalog binDir (some (raws.map RawSuite.settled))
        = validateCatalog binDir (some raws) := by
    intro raws
    have hsuite : validateSuite binDir ∘ RawSuite.settled = validateSuite binDir :=
      funext (validateSuite_settled binDir)
    rw [validateCatalog, validateCatalog, List.mapM_map, hsuite]
  rw [hsettled]
  cases raws? with
  | some raws => rfl
  | none =>
      exact (validateCatalog_eq_ok_iff ..).mpr ⟨suitesAcceptable_builtin, suitesHold_builtin _⟩

/-- Whether the defaults of the checks are written out makes no difference to them. -/
theorem validate_settled (raw : RawConfig) (overrides : Overrides) :
    validate raw.settled overrides = validate raw overrides := by
  simp only [validate, RawConfig.settled, validateCatalog_settled]

/-! ## Steps of rewriting -/

/-- One step at a mapping: the fields in another order, a field written out that was left
    out, or a step within the value of a field. -/
inductive Rewrites (fills : List (Node × Node) → String → Node → Prop)
    (within : String → Node → Node → Prop) (node node' : Node) : Prop where
  | permuted {entries entries' : List (Node × Node)} (h : entriesOf? node = some entries)
      (h' : entriesOf? node' = some entries') (hperm : entries.Perm entries')
  | written {entries : List (Node × Node)} {key value : Node} {name : String}
      (h : entriesOf? node = some entries)
      (h' : entriesOf? node' = some (entries ++ [(key, value)]))
      (hkey : key.text? = some name) (homitted : Schema.Omitted entries name)
      (hfills : fills entries name value)
  | within {front back : List (Node × Node)} {key value value' : Node} {name : String}
      (h : entriesOf? node = some (front ++ (key, value) :: back))
      (h' : entriesOf? node' = some (front ++ (key, value') :: back))
      (hkey : key.text? = some name) (hwithin : within name value value')

/-- A step within an item of a list. -/
def ItemRewrites (step : Node → Node → Prop) (node node' : Node) : Prop :=
  ∃ front item item' back, itemsOf? node = some (front ++ item :: back) ∧
    itemsOf? node' = some (front ++ item' :: back) ∧ step item item'

/-- Steps at a sweep, each of whose fields has a default. -/
def SweepRewrites : Node → Node → Prop :=
  Rewrites (fun _ => sweepSchema.Default) fun _ _ _ => False

/-- Steps at runner settings, each of whose fields has a default. -/
def RunnerRewrites : Node → Node → Prop :=
  Rewrites (fun _ => runnerSchema.Default) fun _ _ _ => False

/-- Steps at a variant, whose label is empty if it has none. -/
def VariantRewrites : Node → Node → Prop :=
  Rewrites (fun _ => variantSchema.Default) fun _ _ _ => False

/-- What may be written out in a suite: besides the defaults of the level the marker that
    is used in place of none, and the name of the suite as that of its executable. -/
inductive SuiteFills (entries : List (Node × Node)) : String → Node → Prop where
  | level {name : String} {value : Node} (h : suiteSchema.Default name value) :
      SuiteFills entries name value
  | marker {value : Node} (h : SpellsOption SpellsText value (some defaultMarker)) :
      SuiteFills entries "throughput_marker" value
  | executable {key name value : Node} {suite : String} (hmem : (key, name) ∈ entries)
      (hkey : key.text? = some "name") (hname : SpellsText name suite)
      (h : SpellsOption SpellsText value (some suite)) : SuiteFills entries "executable" value

/-- Steps at a suite and its variants. -/
def SuiteRewrites : Node → Node → Prop :=
  Rewrites SuiteFills fun name value value' =>
    name = "variants" ∧ ItemRewrites VariantRewrites value value'

/-- What may be written out in a document: besides the defaults of the level the built-in
    catalog. -/
inductive ConfigFills : String → Node → Prop where
  | level {name : String} {value : Node} (h : configSchema.Default name value) :
      ConfigFills name value
  | builtin {value : Node} {raws : List RawSuite}
      (h : SpellsOption (SpellsList suiteSchema.Spells) value (some raws))
      (hraws : raws.map RawSuite.settled = builtinSuites.map RawSuite.settled) :
      ConfigFills "suites" value

/-- Steps at a document, and within its fields. -/
inductive ConfigWithin : String → Node → Node → Prop where
  | sweep {value value' : Node} (h : SweepRewrites value value') :
      ConfigWithin "sweep" value value'
  | runner {value value' : Node} (h : RunnerRewrites value value') :
      ConfigWithin "runner" value value'
  | suites {value value' : Node} (h : ItemRewrites SuiteRewrites value value') :
      ConfigWithin "suites" value value'

/-- **ONE STEP** of rewriting a document; nodes may begin elsewhere afterwards. -/
inductive DocumentRewrites (node node' : Node) : Prop where
  | step (h : Rewrites (fun _ => ConfigFills) ConfigWithin node node')
  | moved (h : node.unmarked = node'.unmarked)

/-- A document rewritten in some steps. -/
def Rewritten : Node → Node → Prop := Relation.ReflTransGen DocumentRewrites

/-! ## What steps do to what is spelled -/

namespace Schema

variable {σ : Type} {S : Schema σ} {f : Field σ} {raw acc : σ} {key value value' : Node}
  {entries entries' : List (Node × Node)}

theorem Reads.perm (h : S.Reads entries raw) (hperm : entries.Perm entries') :
    S.Reads entries' raw := by
  obtain ⟨⟨hknown, hnodup, hrequired⟩, homitted⟩ := h
  refine ⟨⟨fun e he => hknown e (hperm.mem_iff.mpr he), (hperm.map _).nodup hnodup, ?_⟩, ?_⟩
  · intro name hname
    obtain ⟨e, he, hkey⟩ := hrequired name hname
    exact ⟨e, hperm.mem_iff.mp he, hkey⟩
  · intro f hf hf'
    exact homitted f hf fun e he => hf' e (hperm.mem_iff.mp he)

/-- With another value in a field that has been seen, the rest is read as before. -/
theorem ReadsAfter.set (hf : f ∈ S.fields) (h : S.ReadsAfter [f.name] acc entries raw)
    (hacc : ∀ g ∈ S.fields, f.name ≠ g.name → g.get acc = g.get S.start) (x : f.Value) :
    S.ReadsAfter [f.name] (f.set S.start x) entries (f.set raw x) := by
  obtain ⟨hknown, hnodup, hfresh, hrequired, homitted⟩ := h
  refine ⟨?_, hnodup, hfresh, hrequired, ?_⟩
  · intro e he
    obtain ⟨g, hg, hkey, hspells⟩ := hknown e he
    have hname : f.name ≠ g.name := by
      intro h
      exact hfresh f.name (List.mem_singleton_self _) e he (h ▸ hkey)
    exact ⟨g, hg, hkey, (S.get_set_ne f hf g hg hname raw x).symm ▸ hspells⟩
  · intro g hg hg'
    by_cases hname : f.name = g.name
    · obtain rfl := eq_of_name_eq hf hg hname
      rw [f.get_set, f.get_set]
    · rw [S.get_set_ne f hf g hg hname, S.get_set_ne f hf g hg hname, homitted g hg hg',
        hacc g hg hname]

/-- A field that is written out is read besides the others. -/
theorem Reads.written (h : S.Reads entries raw) (hf : f ∈ S.fields)
    (hkey : key.text? = some f.name) (homitted : Omitted entries f.name) {x : f.Value}
    (hspells : f.spells value x) : S.Reads ((key, value) :: entries) (f.set raw x) := by
  have hafter : S.ReadsAfter [f.name] S.start entries raw := by
    obtain ⟨hknown, hnodup, -, hrequired, hrest⟩ := reads_iff.mp h
    refine ⟨hknown, hnodup, ?_, ?_, hrest⟩
    · intro name hname
      rw [List.mem_singleton.mp hname]
      exact homitted
    · exact fun name hname => (hrequired name hname).imp (nomatch ·) id
  refine reads_iff.mpr (readsAfter_cons_iff.mpr ⟨f, hf, hkey, List.not_mem_nil, x, hspells, ?_⟩)
  exact hafter.set hf (fun _ _ _ => rfl) x

/-- A field with another value is read in place of the one before. -/
theorem Reads.replaced (h : S.Reads ((key, value) :: entries) raw) (hf : f ∈ S.fields)
    (hkey : key.text? = some f.name) {x : f.Value} (hspells : f.spells value' x) :
    S.Reads ((key, value') :: entries) (f.set raw x) := by
  obtain ⟨g, hg, hkey', -, y, -, hafter⟩ := readsAfter_cons_iff.mp (reads_iff.mp h)
  obtain rfl := eq_of_name_eq hg hf (Option.some.inj (hkey'.symm.trans hkey))
  refine reads_iff.mpr (readsAfter_cons_iff.mpr ⟨g, hg, hkey, List.not_mem_nil, x, hspells, ?_⟩)
  exact hafter.set hg (fun g' hg' hname => S.get_set_ne g hg g' hg' hname _ _) x

/-- What a field spells that is left out changes nothing, if it is the default. -/
theorem Reads.default (h : S.Reads entries raw) {name : String} (homitted : Omitted entries name)
    (hdefault : S.Default name value) :
    ∃ f ∈ S.fields, f.name = name ∧ ∃ x, f.spells value x ∧ f.set raw x = raw := by
  obtain ⟨f, hf, rfl, hspells⟩ := hdefault
  refine ⟨f, hf, rfl, _, hspells, ?_⟩
  rw [← h.omitted f hf homitted, set_get hf]

/-- **A STEP** at a mapping leaves what is spelled the same, in whatever sense what it writes
    out and the steps within its fields do. -/
theorem spells_of_rewrites (Same : σ → σ → Prop) (hrefl : ∀ a, Same a a)
    {fills : List (Node × Node) → String → Node → Prop} {within : String → Node → Node → Prop}
    (hfills : ∀ {entries name value raw}, S.Reads entries raw → Omitted entries name →
      fills entries name value →
      ∃ f ∈ S.fields, f.name = name ∧ ∃ x, f.spells value x ∧ Same raw (f.set raw x))
    (hwithin : ∀ {name value value' raw}, S.Written raw name value → within name value value' →
      ∃ f ∈ S.fields, f.name = name ∧ ∃ x, f.spells value' x ∧ Same raw (f.set raw x))
    {node node' : Node} (h : Rewrites fills within node node') (hspells : S.Spells node raw) :
    ∃ raw', S.Spells node' raw' ∧ Same raw raw' := by
  obtain ⟨entries₀, hnode, hreads⟩ := hspells
  cases h with
  | permuted h h' hperm =>
      obtain rfl := Option.some.inj (hnode.symm.trans h)
      exact ⟨raw, ⟨_, h', hreads.perm hperm⟩, hrefl raw⟩
  | written h h' hkey homitted hfill =>
      obtain rfl := Option.some.inj (hnode.symm.trans h)
      obtain ⟨f, hf, rfl, x, hx, hsame⟩ := hfills hreads homitted hfill
      have hreads' := hreads.written hf hkey homitted hx
      exact ⟨_, ⟨_, h', hreads'.perm (List.perm_append_singleton _ _).symm⟩, hsame⟩
  | within h h' hkey hstep =>
      obtain rfl := Option.some.inj (hnode.symm.trans h)
      have hfirst := hreads.perm List.perm_middle
      obtain ⟨name, -, hname, hwritten⟩ := hfirst.admits.known _ List.mem_cons_self
      obtain rfl := Option.some.inj (hkey.symm.trans hname)
      obtain ⟨f, hf, rfl, x, hx, hsame⟩ := hwithin hwritten hstep
      have hreads' := hfirst.replaced hf hkey hx
      exact ⟨_, ⟨_, h', hreads'.perm List.perm_middle.symm⟩, hsame⟩

/-- Where only defaults of the level are written out, the same is spelled. -/
theorem spells_of_rewrites_default {node node' : Node}
    (h : Rewrites (fun _ => S.Default) (fun _ _ _ => False) node node')
    (hspells : S.Spells node raw) : S.Spells node' raw := by
  obtain ⟨raw', hraw', rfl⟩ := spells_of_rewrites Eq Eq.refl
    (fun hreads homitted hdefault => by
      obtain ⟨f, hf, hname, x, hx, hset⟩ := hreads.default homitted hdefault
      exact ⟨f, hf, hname, x, hx, hset.symm⟩)
    (fun _ hfalse => hfalse.elim) h hspells
  exact hraw'

end Schema

/-- A step within an item leaves a list of values the same, in whatever sense it leaves
    the item so. -/
theorem spellsList_of_itemRewrites {α : Type} {R : Node → α → Prop} (Same : α → α → Prop)
    (hrefl : ∀ a, Same a a) {step : Node → Node → Prop}
    (hstep : ∀ {item item' a}, R item a → step item item' → ∃ a', R item' a' ∧ Same a a')
    {node node' : Node} {as : List α} (hspells : SpellsList R node as)
    (h : ItemRewrites step node node') :
    ∃ as', SpellsList R node' as' ∧ List.Forall₂ Same as as' := by
  obtain ⟨items, hnode, has⟩ := hspells
  obtain ⟨front, item, item', back, hitems, hitems', hitem⟩ := h
  obtain rfl := Option.some.inj (hnode.symm.trans hitems)
  suffices hlist : ∃ as', List.Forall₂ R (front ++ item' :: back) as' ∧ List.Forall₂ Same as as' by
    obtain ⟨as', has', hsame⟩ := hlist
    exact ⟨as', ⟨_, hitems', has'⟩, hsame⟩
  clear hnode hitems hitems'
  induction front generalizing as with
  | nil =>
      cases has with
      | cons ha hrest =>
          obtain ⟨a', ha', hsame⟩ := hstep ha hitem
          exact ⟨a' :: _, .cons ha' hrest, .cons hsame (List.forall₂_same.mpr fun a _ => hrefl a)⟩
  | cons other front ih =>
      cases has with
      | cons ha hrest =>
          obtain ⟨as', has', hsame⟩ := ih hrest
          exact ⟨_ :: as', .cons ha has', .cons (hrefl _) hsame⟩

/-- A suite that is rewritten is the same once it is settled. -/
theorem spells_of_suiteRewrites {node node' : Node} {raw : RawSuite}
    (hspells : suiteSchema.Spells node raw) (h : SuiteRewrites node node') :
    ∃ raw', suiteSchema.Spells node' raw' ∧ raw.settled = raw'.settled := by
  refine Schema.spells_of_rewrites (fun raw raw' => raw.settled = raw'.settled) (fun _ => rfl)
    ?_ ?_ h hspells
  · intro entries name value raw hreads homitted hfills
    cases hfills with
    | level hdefault =>
        obtain ⟨f, hf, hname, x, hx, hset⟩ := hreads.default homitted hdefault
        exact ⟨f, hf, hname, x, hx, congrArg RawSuite.settled hset.symm⟩
    | marker hvalue =>
        have hmem : suiteSchema.fields[4] ∈ suiteSchema.fields := List.getElem_mem _
        have hnone : raw.marker? = none := hreads.omitted _ hmem homitted
        refine ⟨_, hmem, rfl, some defaultMarker, hvalue, ?_⟩
        show raw.settled = RawSuite.settled { raw with marker? := some defaultMarker }
        rw [RawSuite.settled, RawSuite.settled, hnone]
        rfl
    | @executable key written _ suite hentry hkey hwritten hvalue =>
        obtain ⟨name, -, hname, hsuite⟩ := hreads.admits.known _ hentry
        obtain rfl := Option.some.inj (hkey.symm.trans hname)
        have hsuite : SpellsText written raw.name :=
          (Schema.written_iff (f := suiteSchema.fields[0]) (List.getElem_mem _)).mp hsuite
        obtain rfl : suite = raw.name := Option.some.inj (hwritten.symm.trans hsuite)
        have hmem : suiteSchema.fields[1] ∈ suiteSchema.fields := List.getElem_mem _
        have hnone : raw.executable? = none := hreads.omitted _ hmem homitted
        refine ⟨_, hmem, rfl, some raw.name, hvalue, ?_⟩
        show raw.settled = RawSuite.settled { raw with executable? := some raw.name }
        rw [RawSuite.settled, RawSuite.settled, hnone]
        rfl
  · rintro name value value' raw hwritten ⟨rfl, hstep⟩
    have hmem : suiteSchema.fields[5] ∈ suiteSchema.fields := List.getElem_mem _
    have hvariants : SpellsList variantSchema.Spells value raw.variants :=
      (Schema.written_iff hmem).mp hwritten
    obtain ⟨variants, hvariants', hsame⟩ := spellsList_of_itemRewrites Eq Eq.refl
      (fun hitem hstep => ⟨_, Schema.spells_of_rewrites_default hstep hitem, rfl⟩) hvariants hstep
    rw [List.forall₂_eq_eq_eq] at hsame
    subst hsame
    exact ⟨_, hmem, rfl, raw.variants, hvariants', rfl⟩

/-- A list that is not empty does not stand for nothing. -/
theorem standsForNothing_of_itemsOf? {node : Node} {items : List Node}
    (h : itemsOf? node = some items) (hne : items ≠ []) : standsForNothing node = false := by
  cases node with
  | scalar mark tag? style text =>
      rw [itemsOf?] at h
      split at h
      · exact absurd (Option.some.inj h).symm hne
      · exact (Option.some_ne_none _ h.symm).elim
  | _ => rfl

/-- A document that is rewritten is the same once its suites are settled. -/
theorem spells_of_configRewrites {node node' : Node} {raw : RawConfig}
    (hspells : configSchema.Spells node raw)
    (h : Rewrites (fun _ => ConfigFills) ConfigWithin node node') :
    ∃ raw', configSchema.Spells node' raw' ∧ raw.settled = raw'.settled := by
  refine Schema.spells_of_rewrites (fun raw raw' => raw.settled = raw'.settled) (fun _ => rfl)
    ?_ ?_ h hspells
  · intro entries name value raw hreads homitted hfills
    cases hfills with
    | level hdefault =>
        obtain ⟨f, hf, hname, x, hx, hset⟩ := hreads.default homitted hdefault
        exact ⟨f, hf, hname, x, hx, congrArg RawConfig.settled hset.symm⟩
    | @builtin _ raws hvalue hraws =>
        have hmem : configSchema.fields[2] ∈ configSchema.fields := List.getElem_mem _
        have hnone : raw.suites? = none := hreads.omitted _ hmem homitted
        refine ⟨_, hmem, rfl, some raws, hvalue, ?_⟩
        show raw.settled = RawConfig.settled { raw with suites? := some raws }
        rw [RawConfig.settled, RawConfig.settled, hnone, Option.getD_none, ← hraws]
        rfl
  · intro name value value' raw hwritten hwithin
    cases hwithin with
    | sweep hstep =>
        have hmem : configSchema.fields[0] ∈ configSchema.fields := List.getElem_mem _
        have hsweep : sweepSchema.Spells value raw.sweep := (Schema.written_iff hmem).mp hwritten
        exact ⟨_, hmem, rfl, raw.sweep, Schema.spells_of_rewrites_default hstep hsweep, rfl⟩
    | runner hstep =>
        have hmem : configSchema.fields[1] ∈ configSchema.fields := List.getElem_mem _
        have hrunner : runnerSchema.Spells value raw.runner :=
          (Schema.written_iff hmem).mp hwritten
        exact ⟨_, hmem, rfl, raw.runner, Schema.spells_of_rewrites_default hstep hrunner, rfl⟩
    | suites hstep =>
        have hmem : configSchema.fields[2] ∈ configSchema.fields := List.getElem_mem _
        have hsuites : SpellsOption (SpellsList suiteSchema.Spells) value raw.suites? :=
          (Schema.written_iff hmem).mp hwritten
        have hstands : standsForNothing value = false ∧ standsForNothing value' = false := by
          obtain ⟨front, item, item', back, hitems, hitems', -⟩ := hstep
          have hne : ∀ i : Node, front ++ i :: back ≠ [] :=
            fun i => List.append_ne_nil_of_right_ne_nil _ nofun
          exact ⟨standsForNothing_of_itemsOf? hitems (hne _),
            standsForNothing_of_itemsOf? hitems' (hne _)⟩
        cases hraws : raw.suites? with
        | none =>
            rw [hraws] at hsuites
            exact nomatch hstands.1.symm.trans (standsForNothing_of_spellsNothing hsuites)
        | some raws =>
            rw [hraws] at hsuites
            obtain ⟨raws', hraws', hsame⟩ := spellsList_of_itemRewrites
              (fun raw raw' => raw.settled = raw'.settled) (fun _ => rfl)
              spells_of_suiteRewrites hsuites.2 hstep
            have hmap : raws.map RawSuite.settled = raws'.map RawSuite.settled := by
              rw [← List.forall₂_eq_eq_eq, List.forall₂_map_left_iff, List.forall₂_map_right_iff]
              exact hsame
            refine ⟨_, hmem, rfl, some raws', ⟨hstands.2, hraws'⟩, ?_⟩
            show raw.settled = RawConfig.settled { raw with suites? := some raws' }
            rw [RawConfig.settled, RawConfig.settled, hraws, Option.getD_some, Option.getD_some,
              hmap]

/-- Where nodes begin makes no difference to what a document spells. -/
theorem spells_of_documentRewrites {node node' : Node} {raw : RawConfig}
    (hspells : configSchema.Spells node raw) (h : DocumentRewrites node node') :
    ∃ raw', configSchema.Spells node' raw' ∧ raw.settled = raw'.settled := by
  cases h with
  | step hstep => exact spells_of_configRewrites hspells hstep
  | moved hmoved =>
      refine ⟨raw, (configSchema.markless _ _).mp ?_, rfl⟩
      rw [← hmoved]
      exact (configSchema.markless _ _).mpr hspells

theorem spells_of_rewritten {node node' : Node} {raw : RawConfig}
    (hspells : configSchema.Spells node raw) (h : Rewritten node node') :
    ∃ raw', configSchema.Spells node' raw' ∧ raw.settled = raw'.settled := by
  induction h with
  | refl => exact ⟨raw, hspells, rfl⟩
  | tail _ hstep ih =>
      obtain ⟨raw', hspells', hsame⟩ := ih
      obtain ⟨raw'', hspells'', hsame'⟩ := spells_of_documentRewrites hspells' hstep
      exact ⟨raw'', hspells'', hsame.trans hsame'⟩

/-- A plain scalar. -/
def plain (text : String) : Node := .scalar .origin none .plain text

/-- A sequence. -/
def sequenceOf (items : List Node) : Node := .sequence .origin none items

/-- A mapping with plain keys. -/
def mappingOf (entries : List (String × Node)) : Node :=
  .mapping .origin none (entries.map (Prod.map plain id))

/-- A suite with its name, its keys and its variants. -/
def suiteTree (raw : RawSuite) : Node :=
  mappingOf [("name", plain raw.name), ("keys", plain (toString (raw.keys?.getD 0).toNat)),
    ("variants", sequenceOf (raw.variants.map fun v =>
      mappingOf [("name", plain v.name), ("label", plain v.label)]))]

/-- A document of one suite, with two repetitions and perhaps other fields. -/
def suiteDocument (suite others : List (String × Node)) : Document :=
  { root? := some (mappingOf (("suites", sequenceOf [mappingOf suite])
      :: ("sweep", mappingOf [("runs", plain "2")]) :: others))
    anchored := [] }

/-- A document with the built-in catalog. -/
def catalogDocument : Document :=
  { root? := some (mappingOf [("suites", sequenceOf (builtinSuites.map suiteTree))])
    anchored := [] }

/-- The settings of one suite of one variant, with two repetitions. -/
def terseSettings : RawConfig :=
  { sweep := { runs := 2 }, suites? := some [{ name := "s", variants := [{ name := "v" }] }] }

end Settings

end BenchSweep
