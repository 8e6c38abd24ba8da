import BenchSweep.Settings.Decode
import BenchSweep.Proofs.Distinct
import Mathlib.Data.List.Forall2

/-! # What trees spell

    A document without aliases is a tree of mappings, sequences and scalars.  What such
    a tree has to say to a field is told here by its shape alone: which text or number
    it spells, whether it spells nothing, which values its items spell.  Every decoder of
    values reads just that, wherever the tree stands (`Decodes`). -/

namespace BenchSweep.Yaml

mutual

/-- Whether a node has no alias in it. -/
def Node.isTree : Node → Bool
  | .scalar ..            => true
  | .alias ..             => false
  | .sequence _ _ items   => areTrees items
  | .mapping _ _ entries  => entriesAreTrees entries

/-- Whether some nodes have none. -/
def areTrees : List Node → Bool
  | []           => true
  | item :: rest => item.isTree && areTrees rest

/-- Whether some keys and values have none. -/
def entriesAreTrees : List (Node × Node) → Bool
  | []                   => true
  | (key, value) :: rest => key.isTree && value.isTree && entriesAreTrees rest

end

theorem areTrees_iff {items : List Node} :
    areTrees items = true ↔ ∀ item ∈ items, item.isTree = true := by
  induction items with
  | nil => simp [areTrees]
  | cons item rest ih => simp [areTrees, ih]

theorem entriesAreTrees_iff {entries : List (Node × Node)} :
    entriesAreTrees entries = true ↔
      ∀ e ∈ entries, e.1.isTree = true ∧ e.2.isTree = true := by
  induction entries with
  | nil => simp [entriesAreTrees]
  | cons e rest ih =>
      obtain ⟨key, value⟩ := e
      simp [entriesAreTrees, ih]

mutual

/-- The same tree with all its nodes at the origin. -/
def Node.unmarked : Node → Node
  | .scalar _ tag? style text => .scalar .origin tag? style text
  | .sequence _ tag? items    => .sequence .origin tag? (unmarkedItems items)
  | .mapping _ tag? entries   => .mapping .origin tag? (unmarkedEntries entries)
  | .alias _ target           => .alias .origin target

/-- The same nodes at the origin. -/
def unmarkedItems : List Node → List Node
  | []           => []
  | item :: rest => item.unmarked :: unmarkedItems rest

/-- The same keys and values at the origin. -/
def unmarkedEntries : List (Node × Node) → List (Node × Node)
  | []                   => []
  | (key, value) :: rest => (key.unmarked, value.unmarked) :: unmarkedEntries rest

end

theorem unmarkedItems_eq_map (items : List Node) :
    unmarkedItems items = items.map Node.unmarked := by
  induction items with
  | nil => rfl
  | cons item rest ih => rw [unmarkedItems, ih, List.map_cons]

theorem unmarkedEntries_eq_map (entries : List (Node × Node)) :
    unmarkedEntries entries = entries.map (Prod.map Node.unmarked Node.unmarked) := by
  induction entries with
  | nil => rfl
  | cons e rest ih =>
      obtain ⟨key, value⟩ := e
      rw [unmarkedEntries, ih, List.map_cons, Prod.map]

/-- The text of a scalar. -/
def Node.text? : Node → Option String
  | .scalar _ _ _ text => some text
  | _                  => none

/-- The tag of a node. -/
def Node.tag? : Node → Option Tag
  | .scalar _ tag? _ _   => tag?
  | .sequence _ tag? _   => tag?
  | .mapping _ tag? _    => tag?
  | .alias _ _           => none

@[simp] theorem Node.text?_unmarked (node : Node) : node.unmarked.text? = node.text? := by
  cases node with
  | _ => rfl

@[simp] theorem Node.tag?_unmarked (node : Node) : node.unmarked.tag? = node.tag? := by
  cases node with
  | _ => rfl

/-- The tree of a document; a stream without documents has an empty one. -/
def Document.tree (d : Document) : Node := d.root?.getD (.scalar .origin none .plain "")

end BenchSweep.Yaml

namespace BenchSweep.Settings

open Yaml

/-! ## Values -/

/-- The items of a sequence; a plain scalar without text has none. -/
def itemsOf? : Node → Option (List Node)
  | .sequence _ _ items    => some items
  | .scalar _ _ style text => if isBlankScalar style text then some [] else none
  | _                      => none

/-- The entries of a mapping; a plain scalar without text has none. -/
def entriesOf? : Node → Option (List (Node × Node))
  | .mapping _ _ entries   => some entries
  | .scalar _ _ style text => if isBlankScalar style text then some [] else none
  | _                      => none

/-- Whether a node is nothing but its tag, or spells nothing behind it. -/
def isContentless : Node → Bool
  | .scalar _ _ style text => style = .plain && (text.isEmpty || isNull text)
  | _                      => false

/-- The encoding that a node names: by a local tag and nothing else, or by its text. -/
def encodingOf? (node : Node) : Option Encoding :=
  match node.tag?.bind Tag.localName? with
  | some name => if isContentless node then Encoding.ofName? name else none
  | none      => node.text?.bind Encoding.ofName?

/-- Whether a node spells nothing. -/
def spellsNothing : Node → Bool
  | .scalar _ tag? style text =>
      style = .plain && match tag? with
        | none     => text.isEmpty || isNull text
        | some tag => tag = standardTag "null" && isNull text
  | _ => false

/-- Whether no value is read from a node: it spells nothing, or has the tag of nothing. -/
def standsForNothing : Node → Bool
  | .scalar _ tag? style text =>
      style = .plain && match tag? with
        | none     => text.isEmpty || isNull text
        | some tag => tag = standardTag "null"
  | _ => false

/-- A node that spells a text. -/
def SpellsText (node : Node) (text : String) : Prop := node.text? = some text

/-- A node that spells a 64-bit word. -/
def SpellsWord64 (node : Node) (n : UInt64) : Prop := naturalOf? node = some n.toNat

/-- A node that spells a 32-bit word. -/
def SpellsWord32 (node : Node) (n : UInt32) : Prop := naturalOf? node = some n.toNat

/-- A node that spells an encoding. -/
def SpellsEncoding (node : Node) (e : Encoding) : Prop := encodingOf? node = some e

section Compound

variable {α : Type} (R : Node → α → Prop)

/-- A node that spells a value or nothing. -/
def SpellsOption (node : Node) : Option α → Prop
  | none   => spellsNothing node = true
  | some a => standsForNothing node = false ∧ R node a

/-- A node whose items spell some values. -/
def SpellsList (node : Node) (as : List α) : Prop :=
  ∃ items, itemsOf? node = some items ∧ List.Forall₂ R items as

end Compound

/-! ## Marks

    Where nodes begin makes no difference to what they spell. -/

theorem itemsOf?_unmarked (node : Node) :
    itemsOf? node.unmarked = (itemsOf? node).map (List.map Node.unmarked) := by
  cases node with
  | sequence mark tag? items => exact congrArg some (unmarkedItems_eq_map items)
  | scalar mark tag? style s =>
      rw [itemsOf?, Node.unmarked, itemsOf?]
      split
      · rfl
      · rfl
  | _ => rfl

theorem entriesOf?_unmarked (node : Node) :
    entriesOf? node.unmarked
      = (entriesOf? node).map (List.map (Prod.map Node.unmarked Node.unmarked)) := by
  cases node with
  | mapping mark tag? entries => exact congrArg some (unmarkedEntries_eq_map entries)
  | scalar mark tag? style s =>
      rw [entriesOf?, Node.unmarked, entriesOf?]
      split
      · rfl
      · rfl
  | _ => rfl

theorem naturalOf?_unmarked (node : Node) : naturalOf? node.unmarked = naturalOf? node := by
  cases node with
  | _ => rfl

theorem isContentless_unmarked (node : Node) :
    isContentless node.unmarked = isContentless node := by
  cases node with
  | _ => rfl

theorem spellsNothing_unmarked (node : Node) :
    spellsNothing node.unmarked = spellsNothing node := by
  cases node with
  | _ => rfl

theorem standsForNothing_unmarked (node : Node) :
    standsForNothing node.unmarked = standsForNothing node := by
  cases node with
  | _ => rfl

/-- What is spelled, whatever the marks are. -/
def Markless {α : Type} (R : Node → α → Prop) : Prop :=
  ∀ node a, R node.unmarked a ↔ R node a

theorem markless_text : Markless SpellsText := by
  intro node a
  rw [SpellsText, SpellsText, Node.text?_unmarked]

theorem markless_word64 : Markless SpellsWord64 := by
  intro node a
  rw [SpellsWord64, SpellsWord64, naturalOf?_unmarked]

theorem markless_word32 : Markless SpellsWord32 := by
  intro node a
  rw [SpellsWord32, SpellsWord32, naturalOf?_unmarked]

theorem markless_encoding : Markless SpellsEncoding := by
  intro node a
  rw [SpellsEncoding, SpellsEncoding, encodingOf?, encodingOf?, Node.tag?_unmarked,
    Node.text?_unmarked, isContentless_unmarked]

theorem markless_option {α : Type} {R : Node → α → Prop} (h : Markless R) :
    Markless (SpellsOption R) := by
  intro node a?
  cases a? with
  | none => rw [SpellsOption, SpellsOption, spellsNothing_unmarked]
  | some a => rw [SpellsOption, SpellsOption, standsForNothing_unmarked, h]

theorem markless_list {α : Type} {R : Node → α → Prop} (h : Markless R) :
    Markless (SpellsList R) := by
  intro node as
  rw [SpellsList, SpellsList, itemsOf?_unmarked]
  cases itemsOf? node with
  | none => rfl
  | some items =>
      have hitem : (fun c b => R c.unmarked b) = R := by
        funext c b
        exact propext (h c b)
      simp only [Option.map_some, Option.some.injEq, exists_eq_left', List.forall₂_map_left_iff,
        hitem]

/-! ## Computations that read -/

section Run

variable {α β : Type} {n m : Nat}

theorem run_pure_iff {a b : α} : (pure a : Decoding α).run n = .ok (b, m) ↔ a = b ∧ m = n := by
  rw [StateT.run_pure, eq_comm (a := m), ← Prod.mk.injEq]
  exact ⟨Except.ok.inj, congrArg Except.ok⟩

theorem run_bind_iff {x : Decoding α} {f : α → Decoding β} {b : β} :
    (x >>= f).run n = .ok (b, m) ↔ ∃ a k, x.run n = .ok (a, k) ∧ (f a).run k = .ok (b, m) := by
  rw [StateT.run_bind, bind_eq_ok_iff]
  exact Prod.exists

theorem run_problem {location : Location} {mark : Mark} {cause : Mismatch} {r : α × Nat} :
    (problem location mark cause : Decoding α).run n ≠ .ok r := nofun

end Run

/-- No node of a tree is followed elsewhere. -/
theorem follow_of_isTree {document : Document} {node : Node} (h : node.isTree = true) :
    follow document node = pure node := by
  cases node with
  | scalar _ _ _ _ => rfl
  | sequence _ _ _ => rfl
  | mapping _ _ _ => rfl
  | _ => exact nomatch h

/-- A decoder that reads of trees just what they spell, and follows no alias. -/
def Decodes {α : Type} (decode : Decoder α) (R : Node → α → Prop) : Prop :=
  ∀ (place : Place) (node : Node) (n : Nat) (a : α) (m : Nat), node.isTree = true →
    ((decode place node).run n = .ok (a, m) ↔ R node a ∧ m = n)

/-! ## Decoders of values -/

theorem decodes_text : Decodes text SpellsText := by
  intro place node n a m htree
  rw [text, follow_of_isTree htree, pure_bind, SpellsText]
  cases node with
  | scalar mark tag? style s => rw [run_pure_iff, Node.text?, Option.some.injEq]
  | sequence _ _ _ => simp [refuse, run_problem, Node.text?]
  | mapping _ _ _ => simp [refuse, run_problem, Node.text?]
  | _ => exact absurd htree Bool.false_ne_true

/-- A natural number that is read is below `2 ^ 64`. -/
theorem lt_of_naturalOf? {node : Node} {n : Nat} (h : naturalOf? node = some n) : n < 2 ^ 64 := by
  cases node with
  | scalar mark tag? style s => exact of_decide_eq_true (Option.filter_eq_some_iff.mp h).2
  | sequence _ _ _ => exact nomatch h
  | mapping _ _ _ => exact nomatch h
  | _ => exact nomatch h

theorem decodes_word64 : Decodes word64 SpellsWord64 := by
  intro place node n a m htree
  rw [word64, follow_of_isTree htree, pure_bind, SpellsWord64]
  cases hnumber : naturalOf? node with
  | none => simp [refuse, run_problem]
  | some k =>
      have hk : k < UInt64.size := lt_of_naturalOf? hnumber
      have hword : UInt64.ofNat k = a ↔ k = a.toNat := by
        rw [← UInt64.toNat_inj, UInt64.toNat_ofNat_of_lt' hk]
      rw [run_pure_iff, hword, Option.some.injEq]

theorem decodes_word32 : Decodes word32 SpellsWord32 := by
  intro place node n a m htree
  rw [word32, follow_of_isTree htree, pure_bind, SpellsWord32]
  cases hnumber : naturalOf? node with
  | none => simp [refuse, run_problem]
  | some k =>
      dsimp only
      rw [Option.some.injEq]
      split
      · next hk =>
          have hword : UInt32.ofNat k = a ↔ k = a.toNat := by
            rw [← UInt32.toNat_inj, UInt32.toNat_ofNat_of_lt' hk]
          rw [run_pure_iff, hword]
      · next hk =>
          have hwide : k ≠ a.toNat := fun h => hk (h ▸ a.toNat_lt)
          simp [run_problem, hwide]

theorem run_encodingOfName_iff {location : Location} {mark : Mark} {name : String} {e : Encoding}
    {n m : Nat} : (encodingOfName location mark name).run n = .ok (e, m) ↔
      Encoding.ofName? name = some e ∧ m = n := by
  rw [encodingOfName]
  cases Encoding.ofName? name with
  | none => simp [run_problem]
  | some e' => rw [run_pure_iff, Option.some.injEq]

theorem run_noContent_iff {place : Place} {node : Node} {n m : Nat} {u : Unit} :
    (noContent place node).run n = .ok (u, m) ↔ isContentless node = true ∧ m = n := by
  cases node with
  | scalar mark tag? style s =>
      rw [noContent, isContentless]
      split
      · next h => rw [run_pure_iff, h, eq_self, eq_self, true_and]
      · next h => simp [run_problem, h]
  | sequence _ _ _ => simp [noContent, run_problem, isContentless]
  | mapping _ _ _ => simp [noContent, run_problem, isContentless]
  | _ => simp [noContent, run_problem, isContentless]

theorem decodes_encoding : Decodes encoding SpellsEncoding := by
  intro place node n a m htree
  -- A local tag decides alone, so that what is written behind it is nothing.
  have htag : ∀ name (at' : Location × Mark), (do
      let e ← encodingOfName at'.1 at'.2 name
      noContent place node
      return e : Decoding Encoding).run n = .ok (a, m) ↔
        (if isContentless node then Encoding.ofName? name else none) = some a ∧ m = n := by
    intro name at'
    simp only [run_bind_iff, run_encodingOfName_iff, run_noContent_iff, run_pure_iff]
    by_cases h : isContentless node = true
    · rw [if_pos h]
      constructor
      · rintro ⟨e, k, ⟨hname, rfl⟩, u, l, ⟨-, rfl⟩, rfl, rfl⟩
        exact ⟨hname, rfl⟩
      · rintro ⟨hname, rfl⟩
        exact ⟨a, m, ⟨hname, rfl⟩, (), m, ⟨h, rfl⟩, rfl, rfl⟩
    · rw [if_neg h]
      constructor
      · rintro ⟨e, k, -, u, l, ⟨hcontent, -⟩, -⟩
        exact absurd hcontent h
      · rintro ⟨hname, -⟩
        exact nomatch hname
  rw [encoding, follow_of_isTree htree, pure_bind, SpellsEncoding, encodingOf?]
  cases node with
  | scalar mark tag? style s =>
      dsimp only [Node.tag?]
      cases tag?.bind Tag.localName? with
      | none => exact run_encodingOfName_iff
      | some name => exact htag name _
  | sequence mark tag? items =>
      dsimp only [Node.tag?]
      cases tag?.bind Tag.localName? with
      | none => simp [run_problem, Node.text?]
      | some name => exact htag name _
  | mapping mark tag? entries =>
      dsimp only [Node.tag?]
      cases tag?.bind Tag.localName? with
      | none => simp [run_problem, Node.text?]
      | some name => exact htag name _
  | _ => exact absurd htree Bool.false_ne_true

/-! ## Values that may be missing, and lists -/

section Compound

variable {α : Type} {decode : Decoder α} {R : Node → α → Prop}

/-- What spells nothing stands for nothing. -/
theorem standsForNothing_of_spellsNothing {node : Node} (h : spellsNothing node = true) :
    standsForNothing node = true := by
  cases node with
  | scalar mark tag? style s =>
      cases tag? with
      | none => exact h
      | some tag =>
          obtain ⟨hplain, hnull⟩ := Bool.and_eq_true_iff.mp h
          exact Bool.and_eq_true_iff.mpr ⟨hplain, (Bool.and_eq_true_iff.mp hnull).1⟩
  | _ => exact nomatch h

theorem decodes_optional (hdecode : Decodes decode R) :
    Decodes (optional decode) (SpellsOption R) := by
  intro place node n a? m htree
  have hvalue : (do return some (← decode place node) : Decoding (Option α)).run n
      = .ok (a?, m) ↔ (∃ a, a? = some a ∧ R node a) ∧ m = n := by
    simp only [run_bind_iff, hdecode place node _ _ _ htree, run_pure_iff]
    constructor
    · rintro ⟨a, k, ⟨hR, rfl⟩, rfl, rfl⟩
      exact ⟨⟨a, rfl, hR⟩, rfl⟩
    · rintro ⟨⟨a, rfl, hR⟩, rfl⟩
      exact ⟨a, m, ⟨hR, rfl⟩, rfl, rfl⟩
  -- Each node spells nothing, or has the tag of nothing without spelling it, or is read.
  have hnothing : spellsNothing node = true →
      ((pure none : Decoding (Option α)).run n = .ok (a?, m) ↔
        SpellsOption R node a? ∧ m = n) := by
    intro hspells
    have hstands := standsForNothing_of_spellsNothing hspells
    rw [run_pure_iff]
    cases a? with
    | none => simp [SpellsOption, hspells]
    | some a => simp [SpellsOption, hstands]
  have hsomething : standsForNothing node = false →
      ((do return some (← decode place node) : Decoding (Option α)).run n = .ok (a?, m) ↔
        SpellsOption R node a? ∧ m = n) := by
    intro hstands
    have hspells : ¬ spellsNothing node = true := fun h =>
      nomatch hstands.symm.trans (standsForNothing_of_spellsNothing h)
    rw [hvalue]
    cases a? with
    | none => simp [SpellsOption, hspells]
    | some a => simp [SpellsOption, hstands]
  rw [optional, follow_of_isTree htree, pure_bind]
  split
  · next mark text =>
      split
      · next h => exact hnothing h
      · next h => exact hsomething (Bool.eq_false_iff.mpr h)
  · next mark tag text =>
      split
      · next htag =>
          split
          · next hnull => exact hnothing (by simp [spellsNothing, htag, hnull])
          · next hnull =>
              cases a? with
              | none => simp [run_problem, SpellsOption, spellsNothing, hnull]
              | some a => simp [run_problem, SpellsOption, standsForNothing, htag]
      · next htag => exact hsomething (decide_eq_false htag)
  · next hplain htagged =>
      refine hsomething ?_
      cases node with
      | scalar mark tag? style text =>
          by_cases hstyle : style = .plain
          · subst hstyle
            cases tag? with
            | none => exact (hplain mark text rfl).elim
            | some tag => exact (htagged mark tag text rfl).elim
          · cases tag? with
            | none => exact Bool.and_eq_false_imp.mpr fun h => absurd (of_decide_eq_true h) hstyle
            | some tag =>
                exact Bool.and_eq_false_imp.mpr fun h => absurd (of_decide_eq_true h) hstyle
      | _ => rfl

theorem run_items_iff (hdecode : Decodes decode R) {place : Place} {nodes : List Node}
    (htrees : ∀ node ∈ nodes, node.isTree = true) {index n m : Nat} {as : List α} :
    (items decode place index nodes).run n = .ok (as, m) ↔
      List.Forall₂ R nodes as ∧ m = n := by
  induction nodes generalizing index n m as with
  | nil => rw [items, run_pure_iff, List.forall₂_nil_left_iff, eq_comm]
  | cons node rest ih =>
      obtain ⟨hnode, hrest⟩ := List.forall_mem_cons.mp htrees
      simp only [items, run_bind_iff, hdecode _ node _ _ _ hnode, ih hrest, run_pure_iff,
        List.forall₂_cons_left_iff]
      constructor
      · rintro ⟨a, k, ⟨hR, rfl⟩, as', l, ⟨hrest, rfl⟩, rfl, rfl⟩
        exact ⟨⟨a, as', hR, hrest, rfl⟩, rfl⟩
      · rintro ⟨⟨a, as', hR, hrest, rfl⟩, rfl⟩
        exact ⟨a, m, ⟨hR, rfl⟩, as', m, ⟨hrest, rfl⟩, rfl, rfl⟩

theorem decodes_sequence (hdecode : Decodes decode R) :
    Decodes (sequence decode) (SpellsList R) := by
  intro place node n as m htree
  rw [sequence, follow_of_isTree htree, pure_bind, SpellsList]
  cases node with
  | sequence mark tag? nodes =>
      have htrees := areTrees_iff.mp htree
      simp only [run_items_iff hdecode htrees, itemsOf?, Option.some.injEq, exists_eq_left']
  | scalar mark tag? style s =>
      dsimp only [itemsOf?]
      split
      · rw [run_pure_iff, eq_comm (a := [])]
        simp only [Option.some.injEq, exists_eq_left', List.forall₂_nil_left_iff]
      · simp [refuse, run_problem]
  | mapping _ _ _ => simp [refuse, run_problem, itemsOf?]
  | _ => exact absurd htree Bool.false_ne_true

end Compound

/-- A type of values with the way they are spelled and decoded. -/
structure Spelling (α : Type) where
  spells : Node → α → Prop
  decode : Decoder α
  decodes : Decodes decode spells
  markless : Markless spells

namespace Spelling

def text : Spelling String := ⟨SpellsText, Settings.text, decodes_text, markless_text⟩

def word64 : Spelling UInt64 :=
  ⟨SpellsWord64, Settings.word64, decodes_word64, markless_word64⟩

def word32 : Spelling UInt32 :=
  ⟨SpellsWord32, Settings.word32, decodes_word32, markless_word32⟩

def encoding : Spelling Encoding :=
  ⟨SpellsEncoding, Settings.encoding, decodes_encoding, markless_encoding⟩

variable {α : Type} (s : Spelling α)

/-- Values that may be left out. -/
def option : Spelling (Option α) :=
  ⟨SpellsOption s.spells, Settings.optional s.decode, decodes_optional s.decodes,
    markless_option s.markless⟩

/-- Lists of values. -/
def list : Spelling (List α) :=
  ⟨SpellsList s.spells, Settings.sequence s.decode, decodes_sequence s.decodes,
    markless_list s.markless⟩

end Spelling

end BenchSweep.Settings
