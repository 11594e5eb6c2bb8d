import Mathlib.Tactic.Common
import Rebac.Proofs.Keyed
import Rebac.Yaml.Node

/-!
# Values that are read

In a value that is read, a key stands once in each of its maps, at any depth. A key is told apart
by its kind as well as its text while a map is read, but the map that comes of it knows texts alone,
so this rests on how entries are put together and not on the test for a repeated key.

What is read keeps the nodes of the anchors tidy too, since an alias brings one of them back. The
readers call each other with less fuel, and one induction on it serves them all.
-/

namespace Rebac.Yaml

open Std.Do

set_option mvcgen.warning false

/-! ## Telling values apart -/

mutual

/-- Decides whether two values are the same. -/
def decideEq : (v w : Yaml) → Decidable (v = w)
  | .scalar s, .scalar t => decidable_of_iff (s = t) (by simp)
  | .list items, .list items' =>
    @decidable_of_iff _ (items = items') (by simp) (decideItems items items')
  | .map entries, .map entries' =>
    @decidable_of_iff _ (entries = entries') (by simp) (decideEntries entries entries')
  | .scalar _, .list _ | .scalar _, .map _ | .list _, .scalar _ | .list _, .map _
  | .map _, .scalar _ | .map _, .list _ => isFalse (by simp)

/-- Decides whether two lists have the same items. -/
def decideItems : (items items' : List Yaml) → Decidable (items = items')
  | [], [] => isTrue rfl
  | v :: items, w :: items' =>
    @decidable_of_iff _ (v = w ∧ items = items') (by simp)
      (@instDecidableAnd _ _ (decideEq v w) (decideItems items items'))
  | [], _ :: _ | _ :: _, [] => isFalse (by simp)

/-- Decides whether two maps have the same entries. -/
def decideEntries : (entries entries' : List (String × Yaml)) → Decidable (entries = entries')
  | [], [] => isTrue rfl
  | (key, v) :: entries, (key', w) :: entries' =>
    @decidable_of_iff _ (key = key' ∧ v = w ∧ entries = entries') (by simp [and_assoc])
      (@instDecidableAnd _ _ _
        (@instDecidableAnd _ _ (decideEq v w) (decideEntries entries entries')))
  | [], _ :: _ | _ :: _, [] => isFalse (by simp)

end

instance : DecidableEq Yaml := decideEq

/-! ## Tidy values -/

/-- In each map of the value, at any depth, a key stands once. -/
inductive IsTidy : Yaml → Prop where
  | scalar (s : Scalar) : IsTidy (.scalar s)
  | list {items : List Yaml} (each : ∀ v ∈ items, IsTidy v) : IsTidy (.list items)
  | map {entries : List (String × Yaml)} (nodup : (Keyed.keys entries).Nodup)
      (each : ∀ m ∈ entries, IsTidy m.2) : IsTidy (.map entries)

theorem IsTidy.nodup_keys {entries : List (String × Yaml)} (tidy : IsTidy (.map entries)) :
    (Keyed.keys entries).Nodup := by
  cases tidy with
  | map nodup _ => exact nodup

theorem IsTidy.of_find? {entries : List (String × Yaml)} (tidy : IsTidy (.map entries))
    {key : String} {v : Yaml} (found : Keyed.find? entries key = some v) : v.IsTidy := by
  cases tidy with
  | map _ each => exact each _ (Keyed.mem_of_find? found)

/-! ## Nodes -/

namespace Node

/-- The value of the node is tidy, if it has one. -/
def IsTidy (n : Node) : Prop := ∀ v, n.value? = some v → v.IsTidy

theorem isTidy_misfit : IsTidy .misfit := by
  rintro _ ⟨⟩
  exact .scalar _

theorem isTidy_scalar (kind : Kind) (spelling : String) : IsTidy (.scalar kind spelling) := by
  intro v valued
  obtain ⟨s, -, rfl⟩ := Option.map_eq_some_iff.1 valued
  exact .scalar s

@[grind .]
theorem isTidy_empty : empty.IsTidy := isTidy_scalar _ _

@[grind →]
theorem IsTidy.of_value? {n : Node} {v : Yaml} (valued : n.value? = some v) (tidy : n.IsTidy) :
    v.IsTidy :=
  tidy v valued

@[grind .]
theorem isTidy_list {items : List Yaml} (each : ∀ v ∈ items, v.IsTidy) : IsTidy (.list items) := by
  rintro _ ⟨⟩
  exact .list each

end Node

@[grind .]
theorem Read.isTidy_scalarNode (tag : Option Tag) (plain : Bool) (text : String) :
    (Read.scalarNode tag plain text).IsTidy := by
  unfold Read.scalarNode
  extract_lets kind
  clear_value kind
  cases kind with
  | none => exact Node.isTidy_misfit
  | some kind => exact Node.isTidy_scalar kind text

namespace Entries

/-- What has been read of a map is tidy. -/
structure IsTidy (e : Entries) : Prop where
  pending : e.pending.IsTidy
  done : ∀ entry ∈ e.done, entry.2.IsTidy

@[grind .]
theorem isTidy_none : ({} : Entries).IsTidy :=
  ⟨Node.isTidy_misfit, fun _ absent => by cases absent⟩

/-- An entry is added only under a key that is new, so the entries stay tidy. -/
@[grind →]
theorem IsTidy.add {e e' : Entries} {n : Node} (added : e.add? n = some e') (tidy : e.IsTidy)
    (node : n.IsTidy) : e'.IsTidy := by
  rw [add?] at added
  split at added
  · cases added
    exact ⟨node, tidy.done⟩
  · obtain ⟨key, -, added⟩ := Option.bind_eq_some_iff.1 added
    split at added
    · cases added
    · obtain ⟨v, valued, added⟩ := Option.bind_eq_some_iff.1 added
      cases added
      refine ⟨Node.isTidy_misfit, fun entry member => ?_⟩
      obtain rfl | member := List.mem_cons.1 member
      · exact node v valued
      · exact tidy.done entry member

@[grind .]
theorem IsTidy.node {e : Entries} (tidy : e.IsTidy) : e.node.IsTidy := by
  rintro _ ⟨⟩
  refine .map (Keyed.nodup_keys_ofList _) fun entry member => ?_
  obtain ⟨done, inside, rfl⟩ := List.mem_map.1 (Keyed.mem_of_mem_ofList member)
  exact tidy.done done (List.mem_reverse.1 inside)

end Entries

/-! ## Reading -/

/-- The nodes that can be used again are tidy. -/
def Source.IsTidy (s : Source) : Prop := ∀ entry ∈ s.named, entry.2.IsTidy

namespace Read

@[spec]
theorem peek_spec : ⦃fun s => ⌜s.IsTidy⌝⦄ peek ⦃⇓? _ s => ⌜s.IsTidy⌝⦄ := by
  mvcgen [peek]

@[spec]
theorem pass_spec : ⦃fun s => ⌜s.IsTidy⌝⦄ pass ⦃⇓? _ s => ⌜s.IsTidy⌝⦄ := by
  mvcgen [pass]

@[spec]
theorem passed_spec (t : Token) : ⦃fun s => ⌜s.IsTidy⌝⦄ passed t ⦃⇓? _ s => ⌜s.IsTidy⌝⦄ := by
  mvcgen [passed]

@[spec]
theorem failure_spec {α : Type} {Q : α → Source → Prop} :
    ⦃⌜True⌝⦄ (failure : Read α) ⦃⇓? a s => ⌜Q a s⌝⦄ := by
  mvcgen [failure]

@[spec]
theorem part_spec {α : Type} (part : Option α) : ⦃⌜True⌝⦄ part ⦃⇓? a => ⌜part = some a⌝⦄ := by
  cases part <;> mvcgen

@[spec]
theorem register_spec (name : String) :
    ⦃fun s => ⌜s.IsTidy⌝⦄ register name ⦃⇓? _ s => ⌜s.IsTidy⌝⦄ := by
  mvcgen [register]

@[spec]
theorem resolve_spec (t : Tag) : ⦃fun s => ⌜s.IsTidy⌝⦄ resolve t ⦃⇓? _ s => ⌜s.IsTidy⌝⦄ := by
  mvcgen [resolve]

@[spec]
theorem properties_spec : ⦃fun s => ⌜s.IsTidy⌝⦄ properties ⦃⇓? _ s => ⌜s.IsTidy⌝⦄ := by
  mvcgen [properties]

/-- An alias gives the node that was bound to its anchor, which was tidy when it was bound. -/
@[spec]
theorem aliased_spec (name : String) :
    ⦃fun s => ⌜s.IsTidy⌝⦄ aliased name ⦃⇓? n s => ⌜n.IsTidy ∧ s.IsTidy⌝⦄ := by
  mvcgen [aliased]
  next s tidy id _ =>
    refine ⟨?_, tidy⟩
    cases found : s.named.lookup id with
    | none => exact Node.isTidy_misfit
    | some n =>
      obtain ⟨earlier, later, all, -⟩ := List.lookup_eq_some_iff.1 found
      exact tidy (id, n) (by simp [all])

@[spec]
theorem bindNode_spec (id : Option Nat) (n : Node) :
    ⦃fun s => ⌜n.IsTidy ∧ s.IsTidy⌝⦄ bindNode id n ⦃⇓? _ s => ⌜s.IsTidy⌝⦄ := by
  mvcgen [bindNode]
  next id s tidy _ =>
    intro entry member
    obtain rfl | member := List.mem_cons.1 member
    · exact tidy.1
    · exact tidy.2 entry member
  next s tidy => exact tidy.2

/-- With this much fuel, what the readers give is tidy. -/
structure Tidies (fuel : Nat) : Prop where
  node (inBlock bare : Bool) :
    ⦃fun s => ⌜s.IsTidy⌝⦄ node fuel inBlock bare ⦃⇓? n s => ⌜n.IsTidy ∧ s.IsTidy⌝⦄
  content (inBlock bare marked : Bool) (tag : Option Tag) :
    ⦃fun s => ⌜s.IsTidy⌝⦄ content fuel inBlock bare marked tag ⦃⇓? n s => ⌜n.IsTidy ∧ s.IsTidy⌝⦄
  flowItems (first : Bool) (acc : List Yaml) :
    ⦃fun s => ⌜(∀ v ∈ acc, v.IsTidy) ∧ s.IsTidy⌝⦄ flowItems fuel first acc
      ⦃⇓? items s => ⌜(∀ v ∈ items, v.IsTidy) ∧ s.IsTidy⌝⦄
  pairNode : ⦃fun s => ⌜s.IsTidy⌝⦄ pairNode fuel ⦃⇓? n s => ⌜n.IsTidy ∧ s.IsTidy⌝⦄
  flowEntries (first : Bool) (e : Entries) :
    ⦃fun s => ⌜e.IsTidy ∧ s.IsTidy⌝⦄ flowEntries fuel first e ⦃⇓? n s => ⌜n.IsTidy ∧ s.IsTidy⌝⦄
  blockItems (acc : List Yaml) :
    ⦃fun s => ⌜(∀ v ∈ acc, v.IsTidy) ∧ s.IsTidy⌝⦄ blockItems fuel acc
      ⦃⇓? items s => ⌜(∀ v ∈ items, v.IsTidy) ∧ s.IsTidy⌝⦄
  bareItems (acc : List Yaml) :
    ⦃fun s => ⌜(∀ v ∈ acc, v.IsTidy) ∧ s.IsTidy⌝⦄ bareItems fuel acc
      ⦃⇓? items s => ⌜(∀ v ∈ items, v.IsTidy) ∧ s.IsTidy⌝⦄
  blockEntries (e : Entries) :
    ⦃fun s => ⌜e.IsTidy ∧ s.IsTidy⌝⦄ blockEntries fuel e ⦃⇓? n s => ⌜n.IsTidy ∧ s.IsTidy⌝⦄
  blockPart : ⦃fun s => ⌜s.IsTidy⌝⦄ blockPart fuel ⦃⇓? n s => ⌜n.IsTidy ∧ s.IsTidy⌝⦄

/-- By induction on the fuel: each reader calls the others with less. -/
theorem tidies (fuel : Nat) : Tidies fuel := by
  induction fuel with
  | zero =>
    -- Without fuel every reader fails.
    constructor
    case node => intros; mvcgen [node]
    case content => intros; mvcgen [content]
    case flowItems => intros; mvcgen [flowItems]
    case pairNode => mvcgen [pairNode]
    case flowEntries => intros; mvcgen [flowEntries]
    case blockItems => intros; mvcgen [blockItems]
    case bareItems => intros; mvcgen [bareItems]
    case blockEntries => intros; mvcgen [blockEntries]
    case blockPart => mvcgen [blockPart]
  | succ fuel ih =>
    -- Each reader is run through with what the others promise. What is left is about the nodes
    -- and entries that it puts together.
    obtain ⟨node, content, flowItems, pairNode, flowEntries, blockItems, bareItems, blockEntries,
      blockPart⟩ := ih
    constructor
    case node =>
      intro inBlock bare
      mvcgen [Read.node, content]
      all_goals grind
    case content =>
      intro inBlock bare marked tag
      mvcgen [Read.content, flowItems, flowEntries, bareItems, blockItems, blockEntries]
      all_goals grind
    case flowItems =>
      intro first acc
      mvcgen [Read.flowItems, pairNode, node, flowItems]
      all_goals grind
    case pairNode =>
      mvcgen [Read.pairNode, node]
      all_goals grind
    case flowEntries =>
      intro first e
      mvcgen [Read.flowEntries, node, flowEntries]
      all_goals grind
    case blockItems =>
      intro acc
      mvcgen [Read.blockItems, node, blockItems]
      all_goals grind
    case bareItems =>
      intro acc
      mvcgen [Read.bareItems, node, bareItems]
      all_goals grind
    case blockEntries =>
      intro e
      mvcgen [Read.blockEntries, blockPart, blockEntries]
      all_goals grind
    case blockPart =>
      mvcgen [Read.blockPart, node]
      all_goals grind

/-- What reading ends with when it starts from a tidy source. -/
theorem holds_of_run {α : Type} {r : Read α} {P : α → Source → Prop}
    (spec : ⦃fun s => ⌜s.IsTidy⌝⦄ r ⦃⇓? a s => ⌜P a s⌝⦄) {s s' : Source} {a : α} (tidy : s.IsTidy)
    (run : r.run s = some (a, s')) : P a s' := by
  have holds : (wp⟦r.run s⟧ (fun x => ⌜P x.1 x.2⌝, fun _ => ⌜True⌝, ⟨⟩)).down := spec s tidy
  rw [run] at holds
  exact holds

@[spec]
theorem directives_spec (fuel : Nat) (versioned : Bool) (handles : List (String × String)) :
    ⦃fun s => ⌜s.IsTidy⌝⦄ directives fuel versioned handles ⦃⇓? _ s => ⌜s.IsTidy⌝⦄ := by
  induction fuel generalizing versioned handles with
  | zero => mvcgen [directives]
  | succ fuel ih => mvcgen [directives, ih]

@[spec]
theorem markedDocument_spec (fuel : Nat) :
    ⦃fun s => ⌜s.IsTidy⌝⦄ markedDocument fuel ⦃⇓? n s => ⌜n.IsTidy ∧ s.IsTidy⌝⦄ := by
  have node := (tidies fuel).node
  mvcgen [markedDocument, node]
  all_goals grind

@[spec]
theorem passEnds_spec (fuel : Nat) :
    ⦃fun s => ⌜s.IsTidy⌝⦄ passEnds fuel ⦃⇓? _ s => ⌜s.IsTidy⌝⦄ := by
  induction fuel with
  | zero => mvcgen [passEnds]
  | succ fuel ih => mvcgen [passEnds, ih]

/-- Every document of a text is tidy. The anchors are forgotten between documents, so each starts
from a tidy state. -/
theorem documents_spec (fuel : Nat) (unmarked : Bool) :
    ⦃fun s => ⌜s.IsTidy⌝⦄ documents fuel unmarked
      ⦃⇓? nodes s => ⌜(∀ n ∈ nodes, n.IsTidy) ∧ s.IsTidy⌝⦄ := by
  induction fuel generalizing unmarked with
  | zero => mvcgen [documents]
  | succ fuel ih =>
    have node := (tidies fuel).node
    mvcgen [documents, node, ih]
    all_goals grind [Source.IsTidy]

end Read

/-- What is read from any tokens is tidy. -/
theorem Node.isTidy_of_ofTokens? {tokens : List Token} {nodes : List Node}
    (h : ofTokens? tokens = some nodes) : ∀ n ∈ nodes, n.IsTidy := by
  obtain ⟨⟨nodes, s⟩, run, rfl⟩ := Option.map_eq_some_iff.1 h
  have fresh : Source.IsTidy { tokens } := fun _ absent => by cases absent
  exact (Read.holds_of_run (Read.documents_spec _ true) fresh run).1

/-- What is read from a text is tidy. -/
theorem isTidy_of_read? {text : String} {v : Yaml} (h : read? text = some v) : v.IsTidy := by
  obtain ⟨tokens, -, h⟩ := Option.bind_eq_some_iff.1 h
  obtain ⟨nodes, read, h⟩ := Option.bind_eq_some_iff.1 h
  have tidy := Node.isTidy_of_ofTokens? read
  split at h
  · cases h
    exact .map (by simp [Keyed.keys]) fun _ absent => by cases absent
  · exact tidy _ List.mem_cons_self v h
  · cases h

end Rebac.Yaml
