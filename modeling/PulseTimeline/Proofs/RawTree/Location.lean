import PulseTimeline.Proofs.Computation
import PulseTimeline.Proofs.Json.Parts
import PulseTimeline.Proofs.RawTree.Nodes
import PulseTimeline.RawTree.Program

set_option autoImplicit false

/-! # Locations say nothing

Without its location metadata a tree stands for the same program, or is refused with the same error.
Every reading of a node looks past the location, so that the two trees are read in step, outcome by
outcome. The tree without locations may be lower than the other: each is read with a height of its
own, and all that is asked of the two heights is that they bound the two trees. -/

namespace PulseTimeline

/-! ## Deleting a key -/

namespace Json

mutual

/-- A document without the members called `key`, at any depth. -/
def without (key : String) : Json → Json
  | array items => array (withoutItems key items)
  | object members => object (withoutMembers key members)
  | other => other

/-- The items of an array without the members called `key`. -/
def withoutItems (key : String) : List Json → List Json
  | [] => []
  | item :: rest => without key item :: withoutItems key rest

/-- The members of an object but for those called `key`, at any depth. -/
def withoutMembers (key : String) : List (String × Json) → List (String × Json)
  | [] => []
  | (name, value) :: rest =>
    if name = key then withoutMembers key rest
    else (name, without key value) :: withoutMembers key rest

end

variable {key : String}

theorem withoutItems_eq (items : List Json) :
    withoutItems key items = items.map (without key) := by
  induction items with
  | nil => rw [withoutItems, List.map_nil]
  | cons item rest ih => rw [withoutItems, List.map_cons, ih]

theorem withoutMembers_eq (members : List (String × Json)) :
    withoutMembers key members
      = (members.filter fun m => m.1 != key).map fun m => (m.1, m.2.without key) := by
  induction members with
  | nil => rfl
  | cons member rest ih =>
      obtain ⟨name, value⟩ := member
      rw [withoutMembers]
      by_cases hname : name = key
      · rw [if_pos hname, ih, List.filter_cons_of_neg (by simpa using hname)]
      · rw [if_neg hname, ih, List.filter_cons_of_pos (by simpa using hname), List.map_cons]

theorem lookup_withoutMembers {field : String} (hfield : field ≠ key)
    (members : List (String × Json)) :
    (withoutMembers key members).lookup field = (members.lookup field).map (without key) := by
  induction members with
  | nil => rfl
  | cons member rest ih =>
      obtain ⟨name, value⟩ := member
      rw [withoutMembers]
      by_cases hname : name = key
      · subst hname
        rw [if_pos rfl, ih, List.lookup_cons, beq_eq_false_iff_ne.2 hfield]
      · rw [if_neg hname, List.lookup_cons, List.lookup_cons, ih]
        cases field == name <;> rfl

end Json

namespace RawTree

open Json (without)

variable {α β : Type}

/-! ## Outcomes in step -/

/-- What goes on after an outcome has to agree on a result only. -/
theorem except_bind_congr {x : Except TreeError α} {f f' : α → Except TreeError β}
    (hf : ∀ a, x = .ok a → f' a = f a) : (x >>= f') = (x >>= f) := by
  cases x with
  | error e => rfl
  | ok a => exact hf a rfl

theorem bind_in_step {x x' : Except TreeError α} {f f' : α → Except TreeError β} (hx : x' = x)
    (hf : ∀ a, f' a = f a) : (x' >>= f') = (x >>= f) := by
  rw [hx, funext hf]

theorem mapM_in_step {read read' : Json → Except TreeError α} {items : List Json}
    (h : ∀ item ∈ items, read' (item.without locationKey) = read item) :
    (items.map (without locationKey)).mapM read' = items.mapM read := by
  induction items with
  | nil => rfl
  | cons item rest ih =>
      rw [List.forall_mem_cons] at h
      rw [List.map_cons, List.mapM_cons, List.mapM_cons]
      exact bind_in_step h.1 fun _ => bind_in_step (ih h.2) fun _ => rfl

/-! ## Nodes -/

/-- The node that is left of a node without locations. -/
def Node.bare (node : Node) : Node :=
  ⟨node.kind, Json.withoutMembers locationKey node.members⟩

/-- The first field that is not recognized is the same, since none that is called `loc` is it. -/
theorem Node.of_without (kind : String) (raw : Json) (recognized : List String) :
    Node.of kind (raw.without locationKey) recognized
      = Node.bare <$> Node.of kind raw recognized := by
  cases raw with
  | object members =>
      have hfind : (Json.withoutMembers locationKey members).find?
            (fun m => m.1 != locationKey && !recognized.contains m.1)
          = (members.find? fun m => m.1 != locationKey && !recognized.contains m.1).map
            fun m => (m.1, m.2.without locationKey) := by
        rw [Json.withoutMembers_eq, List.find?_map, List.find?_filter]
        congr 2
        funext m
        rw [Bool.eq_iff_iff]
        simp
      rw [without, Node.of, Node.of, hfind]
      cases members.find? fun m => m.1 != locationKey && !recognized.contains m.1 <;> rfl
  | _ => rfl

theorem singleEntry_without (category : String) (raw : Json) :
    singleEntry category (raw.without locationKey)
      = (fun entry => (entry.1, entry.2.without locationKey)) <$> singleEntry category raw := by
  cases raw with
  | object members =>
      have hfilter : (Json.withoutMembers locationKey members).filter (fun m => m.1 != locationKey)
          = (members.filter fun m => m.1 != locationKey).map
            fun m => (m.1, m.2.without locationKey) := by
        rw [Json.withoutMembers_eq, List.filter_map, List.filter_filter]
        simp
      rw [without, singleEntry, singleEntry, hfilter]
      generalize (members.filter fun m => m.1 != locationKey) = entries
      match entries with
      | [] => rfl
      | [_] => rfl
      | first :: second :: rest => simp [Function.comp_def, Functor.map, Except.map]
  | _ => rfl

theorem singleEntry_of_not_mapping {category : String} {raw : Json}
    (h : ∀ members, raw ≠ .object members) :
    singleEntry category raw = .error (.invalidType category "a mapping") := by
  cases raw with
  | object members => exact absurd rfl (h members)
  | _ => rfl

theorem Node.of_not_mapping {kind : String} {recognized : List String} {raw : Json}
    (h : ∀ members, raw ≠ .object members) :
    Node.of kind raw recognized = .error (.invalidType kind "a mapping") := by
  cases raw with
  | object members => exact absurd rfl (h members)
  | _ => rfl

namespace Node

variable {node : Node} {field : String}

theorem optional_bare (hfield : field ≠ locationKey) :
    node.bare.optional field = (node.optional field).map (without locationKey) := by
  unfold optional
  rw [bare, Json.lookup_withoutMembers hfield]
  cases node.members.lookup field with
  | none => rfl
  | some value => cases value <;> rfl

theorem required_bare (hfield : field ≠ locationKey) :
    node.bare.required field = without locationKey <$> node.required field := by
  rw [required, required, optional_bare hfield]
  cases node.optional field <;> rfl

theorem string_bare (value : Json) :
    node.bare.string (value.without locationKey) = node.string value := by
  cases value <;> rfl

theorem requiredString_bare (hfield : field ≠ locationKey) :
    node.bare.requiredString field = node.requiredString field := by
  rw [requiredString, requiredString, required_bare hfield, bind_map_left]
  exact bind_congr string_bare

theorem optionalString_bare (hfield : field ≠ locationKey) :
    node.bare.optionalString field = node.optionalString field := by
  rw [optionalString, optionalString, optional_bare hfield]
  cases node.optional field with
  | none => rfl
  | some value => exact bind_in_step (string_bare value) fun _ => rfl

theorem list_bare (hfield : field ≠ locationKey) :
    node.bare.list field = List.map (without locationKey) <$> node.list field := by
  rw [list, list, optional_bare hfield]
  cases node.optional field with
  | none => rfl
  | some value =>
      cases value with
      | array items => simp [without, Json.withoutItems_eq, Functor.map, Except.map]
      | _ => rfl

end Node

/-! ## Heights -/

/-- Bounds of the height of a tree and of its height without locations. The latter may be lower, as
    nothing but a location may stand at the greatest depth. -/
structure Bounded (n n' : Nat) (raw : Json) : Prop where
  given : raw.height ≤ n
  bare : (raw.without locationKey).height ≤ n'

variable {n n' : Nat} {raw : Json}

theorem Bounded.succ (h : Bounded n n' raw) : Bounded (n + 1) (n' + 1) raw :=
  ⟨Nat.le_succ_of_le h.given, Nat.le_succ_of_le h.bare⟩

theorem Bounded.member {members : List (String × Json)} {m : String × Json}
    (h : Bounded (n + 1) (n' + 1) (.object members)) (hm : m ∈ members) (hkey : m.1 ≠ locationKey) :
    Bounded n n' m.2 := by
  constructor
  · exact Json.height_object_le_iff.1 h.given m hm
  · have hbare := h.bare
    rw [without, Json.withoutMembers_eq] at hbare
    exact Json.height_object_le_iff.1 hbare (m.1, m.2.without locationKey)
      (List.mem_map_of_mem (List.mem_filter.2 ⟨hm, bne_iff_ne.2 hkey⟩))

theorem Bounded.item {items : List Json} {item : Json} (h : Bounded n n' (.array items))
    (hitem : item ∈ items) : Bounded n n' item := by
  constructor
  · exact Nat.le_of_lt (Nat.lt_of_lt_of_le (Json.height_lt_of_mem_items hitem) h.given)
  · have hbare := h.bare
    rw [without, Json.withoutItems_eq] at hbare
    exact Nat.le_of_lt (Nat.lt_of_lt_of_le
      (Json.height_lt_of_mem_items (List.mem_map_of_mem hitem)) hbare)

/-- Nothing of height zero is a mapping, with its locations or without. -/
theorem Bounded.ne_object_of_zero (h : Bounded n n' raw) (hzero : n = 0 ∨ n' = 0)
    (members : List (String × Json)) : raw ≠ .object members := by
  rintro rfl
  rcases hzero with rfl | rfl
  · exact Nat.not_succ_le_zero _ h.given
  · exact Nat.not_succ_le_zero _ h.bare

theorem bounded_self (raw : Json) : Bounded raw.height (raw.without locationKey).height raw :=
  ⟨Nat.le_refl _, Nat.le_refl _⟩

/-- The bounds of all that stands in the fields of a node. -/
def Node.Bounded (n n' : Nat) (node : Node) : Prop :=
  ∀ field value, field ≠ locationKey → node.optional field = some value →
    RawTree.Bounded n n' value

theorem Bounded.node {kind : String} {recognized : List String} {node : Node}
    (h : Bounded (n + 1) (n' + 1) raw) (hnode : Node.of kind raw recognized = .ok node) :
    node.Bounded n n' := by
  obtain ⟨members, rfl, -, rfl⟩ := Node.of_eq_ok_iff.1 hnode
  intro field value hfield hvalue
  have hlookup : members.lookup field = some value := by
    rw [Node.optional] at hvalue
    split at hvalue
    · cases hvalue
    · exact hvalue
  obtain ⟨before, after, rfl, -⟩ := List.lookup_eq_some_iff.1 hlookup
  exact h.member (List.mem_append_right before List.mem_cons_self) hfield

/-- The location is no entry, so what is one is bounded in both trees. -/
theorem Bounded.entry {category kind : String} {body : Json} (h : Bounded (n + 1) (n' + 1) raw)
    (hentry : singleEntry category raw = .ok (kind, body)) : Bounded n n' body := by
  obtain ⟨members, rfl, hfilter⟩ := singleEntry_eq_ok_iff.1 hentry
  have hmem : (kind, body) ∈ members.filter fun m => m.1 != locationKey :=
    hfilter ▸ List.mem_singleton.2 rfl
  obtain ⟨hmem, hkey⟩ := List.mem_filter.1 hmem
  exact h.member hmem (bne_iff_ne.1 hkey)

theorem Node.Bounded.items {node : Node} {field : String} {items : List Json}
    (h : node.Bounded n n') (hfield : field ≠ locationKey) (hitems : node.list field = .ok items) :
    ∀ item ∈ items, RawTree.Bounded n n' item := by
  rcases Node.list_eq_ok_iff.1 hitems with ⟨-, rfl⟩ | hsome
  · exact nofun
  · exact fun item hitem => (h field _ hfield hsome).item hitem

/-! ## Readings in step -/

theorem Bounded.node_in_step {kind : String} {recognized : List String}
    {read read' : Node → Except TreeError α} (hraw : Bounded (n + 1) (n' + 1) raw)
    (h : ∀ node, node.Bounded n n' → read' node.bare = read node) :
    (Node.of kind (raw.without locationKey) recognized >>= read')
      = (Node.of kind raw recognized >>= read) := by
  rw [Node.of_without, bind_map_left]
  exact except_bind_congr fun node hnode => h node (hraw.node hnode)

theorem Bounded.entry_in_step {category : String} {read read' : String × Json → Except TreeError α}
    (hraw : Bounded (n + 1) (n' + 1) raw)
    (h : ∀ kind body, Bounded n n' body →
      read' (kind, body.without locationKey) = read (kind, body)) :
    (singleEntry category (raw.without locationKey) >>= read')
      = (singleEntry category raw >>= read) := by
  rw [singleEntry_without, bind_map_left]
  exact except_bind_congr fun entry hentry => h entry.1 entry.2 (hraw.entry hentry)

section

variable {node : Node} {field : String} {read read' : Json → Except TreeError α}

theorem Node.Bounded.required_in_step {f f' : α → Except TreeError β} (hnode : node.Bounded n n')
    (hfield : field ≠ locationKey)
    (h : ∀ value, RawTree.Bounded n n' value → read' (value.without locationKey) = read value)
    (hf : ∀ a, f' a = f a) :
    (node.bare.required field >>= fun value => read' value >>= f')
      = (node.required field >>= fun value => read value >>= f) := by
  rw [Node.required_bare hfield, bind_map_left]
  refine except_bind_congr fun value hvalue => bind_in_step ?_ hf
  exact h value (hnode field value hfield (Node.required_eq_ok_iff.1 hvalue))

theorem Node.Bounded.optional_in_step {f f' : Option α → Except TreeError β}
    (hnode : node.Bounded n n') (hfield : field ≠ locationKey)
    (h : ∀ value, RawTree.Bounded n n' value → read' (value.without locationKey) = read value)
    (hf : ∀ found, f' found = f found) :
    ((node.bare.optional field).mapM read' >>= f') = ((node.optional field).mapM read >>= f) := by
  refine bind_in_step ?_ hf
  rw [Node.optional_bare hfield]
  cases hvalue : node.optional field with
  | none => rfl
  | some value => exact bind_in_step (h value (hnode field value hfield hvalue)) fun _ => rfl

theorem Node.Bounded.list_in_step {f f' : List α → Except TreeError β} (hnode : node.Bounded n n')
    (hfield : field ≠ locationKey)
    (h : ∀ item, RawTree.Bounded n n' item → read' (item.without locationKey) = read item)
    (hf : ∀ values, f' values = f values) :
    (node.bare.list field >>= fun items => items.mapM read' >>= f')
      = (node.list field >>= fun items => items.mapM read >>= f) := by
  rw [Node.list_bare hfield, bind_map_left]
  refine except_bind_congr fun items hitems => bind_in_step ?_ hf
  exact mapM_in_step fun item hitem => h item (hnode.items hfield hitems item hitem)

end

/-- What refuses all but mappings treats both trees alike where a height leaves no room for one. -/
theorem Bounded.refusal_in_step (read : Nat → Json → Except TreeError α) {e : TreeError}
    (h : Bounded n n' raw) (hzero : n = 0 ∨ n' = 0)
    (hread : ∀ {n raw}, (∀ members, raw ≠ .object members) → read n raw = .error e) :
    read n' (raw.without locationKey) = read n raw := by
  have hraw : ∀ members, raw ≠ .object members := h.ne_object_of_zero hzero
  have hbare : ∀ members, raw.without locationKey ≠ .object members := by
    cases raw with
    | object members => exact absurd rfl (hraw members)
    | _ => exact nofun
  rw [hread hraw, hread hbare]

theorem nameIn_without (kind : String) (raw : Json) :
    nameIn kind (raw.without locationKey) = nameIn kind raw :=
  (bounded_self raw).succ.node_in_step fun _ _ => Node.requiredString_bare (by decide)

theorem literalText_without (kind : String) (raw : Json) :
    literalText kind (raw.without locationKey) = literalText kind raw := by
  cases raw <;> rfl

/-! ## Expressions -/

theorem literalExpression_without (raw : Json) :
    literalExpression (raw.without locationKey) = literalExpression raw := by
  refine (bounded_self raw).succ.node_in_step fun node hnode => ?_
  refine hnode.required_in_step (by decide) (fun value _ => literalText_without _ value) fun _ => ?_
  rw [Node.optionalString_bare (by decide)]

theorem binaryOperator_bare (node : Node) : binaryOperator node.bare = binaryOperator node :=
  bind_in_step (Node.requiredString_bare (by decide)) fun _ => rfl

theorem unaryOperator_bare (node : Node) : unaryOperator node.bare = unaryOperator node :=
  bind_in_step (Node.requiredString_bare (by decide)) fun _ => rfl

theorem expression_of_not_mapping (h : ∀ members, raw ≠ .object members) :
    expression n raw = .error (.invalidType "expression" "a mapping") := by
  cases n with
  | zero => rfl
  | succ n =>
      rw [expression, singleEntry_of_not_mapping h]
      rfl

theorem expression_without (h : Bounded n n' raw) :
    expression n' (raw.without locationKey) = expression n raw := by
  induction n generalizing n' raw with
  | zero => exact h.refusal_in_step expression (Or.inl rfl) expression_of_not_mapping
  | succ n ih =>
      cases n' with
      | zero => exact h.refusal_in_step expression (Or.inr rfl) expression_of_not_mapping
      | succ n' =>
          rw [expression, expression]
          refine h.entry_in_step fun kind body hbody => ?_
          dsimp only
          -- The kind is the same with the location and without, so one split is for both sides.
          split
          · rw [nameIn_without]
          · exact literalExpression_without body
          · refine hbody.succ.node_in_step fun node hnode => ?_
            refine bind_in_step (binaryOperator_bare node) fun _ => ?_
            refine hnode.required_in_step (by decide) (fun _ => ih) fun _ => ?_
            exact hnode.required_in_step (by decide) (fun _ => ih) fun _ => rfl
          · refine hbody.succ.node_in_step fun node hnode => ?_
            refine bind_in_step (unaryOperator_bare node) fun _ => ?_
            exact hnode.required_in_step (by decide) (fun _ => ih) fun _ => rfl
          · refine hbody.succ.node_in_step fun node hnode => ?_
            refine hnode.list_in_step (by decide) (fun _ => ih) fun _ => ?_
            rw [Node.requiredString_bare (by decide), Node.requiredString_bare (by decide)]
          · refine hbody.succ.node_in_step fun node hnode => ?_
            refine hnode.required_in_step (by decide) (fun raw _ => nameIn_without _ raw)
              fun _ => ?_
            exact hnode.required_in_step (by decide) (fun _ => ih) fun _ => rfl
          · rfl

/-! ## Statements -/

theorem element_bare (node : Node) : element node.bare = element node := by
  rw [element, element, Node.required_bare (by decide), bind_map_left]
  exact bind_congr (nameIn_without "qe")

theorem elements_bare (node : Node) : elements node.bare = elements node := by
  rw [elements, elements, Node.optional_bare (by decide)]
  cases node.optional "qe" with
  | none => rfl
  | some raw =>
      cases raw with
      | array items =>
          simp only [Option.map_some, without, Json.withoutItems_eq]
          exact mapM_in_step fun item _ => nameIn_without "qe" item
      | _ => exact bind_in_step (nameIn_without "qe" _) fun _ => rfl

theorem pulse_bare {node : Node} (h : node.Bounded n n') : pulse n' node.bare = pulse n node := by
  rw [pulse, pulse, Node.optional_bare (by decide), Node.optional_bare (by decide)]
  cases node.optional "namedPulse" with
  | none =>
      cases hramp : node.optional "rampPulse" with
      | none => rfl
      | some ramp =>
          refine (h "rampPulse" ramp (by decide) hramp).succ.node_in_step fun node hnode => ?_
          exact hnode.required_in_step (by decide) (fun _ => expression_without) fun _ => rfl
  | some named =>
      cases node.optional "rampPulse" with
      | none => exact bind_in_step (nameIn_without "namedPulse" named) fun _ => rfl
      | some ramp => rfl

theorem amplitude_without (h : Bounded n n' raw) :
    amplitude n' (raw.without locationKey) = amplitude n raw := by
  refine h.succ.node_in_step fun node hnode => ?_
  rw [Node.required_bare (by decide), bind_map_left]
  refine except_bind_congr fun value hvalue => expression_without ?_
  exact hnode "v0" value (by decide) (Node.required_eq_ok_iff.1 hvalue)

theorem playStatement_without (h : Bounded n n' raw) :
    playStatement n' (raw.without locationKey) = playStatement n raw := by
  refine h.succ.node_in_step fun node hnode => ?_
  refine bind_in_step (pulse_bare hnode) fun _ => ?_
  refine hnode.optional_in_step (by decide) (fun _ => amplitude_without) fun _ => ?_
  refine hnode.optional_in_step (by decide) (fun _ => expression_without) fun _ => ?_
  rw [element_bare]

theorem measureStatement_without (raw : Json) :
    measureStatement (raw.without locationKey) = measureStatement raw := by
  refine (bounded_self raw).succ.node_in_step fun node hnode => ?_
  -- The processing of the results is asked to be a list and not looked into.
  rw [Node.list_bare (by decide), bind_map_left]
  refine bind_congr fun _ => ?_
  rw [Node.optionalString_bare (by decide), Node.optionalString_bare (by decide), element_bare]
  refine bind_congr fun _ => bind_congr fun _ => ?_
  exact hnode.optional_in_step (by decide) (fun raw _ => nameIn_without _ raw) fun _ => rfl

theorem assignStatement_without (h : Bounded n n' raw) :
    assignStatement n' (raw.without locationKey) = assignStatement n raw := by
  refine h.succ.node_in_step fun node hnode => ?_
  refine hnode.required_in_step (by decide) (fun _ => expression_without) fun _ => ?_
  refine bind_congr fun _ => ?_
  exact hnode.required_in_step (by decide) (fun _ => expression_without) fun _ => rfl

theorem block_of_not_mapping (h : ∀ members, raw ≠ .object members) :
    block n raw = .error (.invalidType "block" "a mapping") := by
  cases n with
  | zero => rfl
  | succ n =>
      rw [block, Node.of_not_mapping h]
      rfl

theorem statement_of_not_mapping (h : ∀ members, raw ≠ .object members) :
    statement n raw = .error (.invalidType "statement" "a mapping") := by
  cases n with
  | zero => rfl
  | succ n =>
      rw [statement, singleEntry_of_not_mapping h]
      rfl

theorem guarded_of_not_mapping {kind guard : String} (h : ∀ members, raw ≠ .object members) :
    guarded n kind guard raw = .error (.invalidType kind "a mapping") := by
  cases n with
  | zero => rfl
  | succ n =>
      rw [guarded, Node.of_not_mapping h]
      rfl

/-- What holds at a height if whatever is bounded by it is read alike without its locations. -/
structure InStep (n : Nat) : Prop where
  block : ∀ {n' raw}, Bounded n n' raw → block n' (raw.without locationKey) = block n raw
  statement : ∀ {n' raw}, Bounded n n' raw →
    statement n' (raw.without locationKey) = statement n raw
  guarded : ∀ {n' kind guard raw}, guard ≠ locationKey → Bounded n n' raw →
    guarded n' kind guard (raw.without locationKey) = guarded n kind guard raw

theorem InStep.block_succ (ih : InStep n) (h : Bounded (n + 1) n' raw) :
    RawTree.block n' (raw.without locationKey) = RawTree.block (n + 1) raw := by
  cases n' with
  | zero => exact h.refusal_in_step RawTree.block (Or.inr rfl) block_of_not_mapping
  | succ n' =>
      rw [RawTree.block, RawTree.block]
      refine h.node_in_step fun node hnode => ?_
      rw [Node.list_bare (by decide), bind_map_left]
      refine except_bind_congr fun items hitems => mapM_in_step fun item hitem => ?_
      exact ih.statement (hnode.items (by decide) hitems item hitem)

theorem InStep.statement_succ (ih : InStep n) (h : Bounded (n + 1) n' raw) :
    RawTree.statement n' (raw.without locationKey) = RawTree.statement (n + 1) raw := by
  cases n' with
  | zero => exact h.refusal_in_step RawTree.statement (Or.inr rfl) statement_of_not_mapping
  | succ n' =>
      rw [RawTree.statement, RawTree.statement]
      refine h.entry_in_step fun kind body hbody => ?_
      dsimp only
      -- One case for each kind, in which its fields are read in the order of the definition.
      split
      · exact playStatement_without hbody
      · exact measureStatement_without body
      · refine hbody.succ.node_in_step fun node _ => ?_
        rw [elements_bare]
      · exact assignStatement_without hbody
      · refine hbody.succ.node_in_step fun node hnode => ?_
        refine hnode.required_in_step (by decide) (fun _ => expression_without) fun _ => ?_
        refine hnode.required_in_step (by decide) (fun _ => ih.block) fun _ => ?_
        refine hnode.list_in_step (by decide) (fun _ => ih.guarded (by decide)) fun _ => ?_
        exact hnode.optional_in_step (by decide) (fun _ => ih.block) fun _ => rfl
      · refine hbody.succ.node_in_step fun node _ => ?_
        rw [elements_bare]
      · refine hbody.succ.node_in_step fun node hnode => ?_
        refine hnode.optional_in_step (by decide) (fun _ => expression_without) fun _ => ?_
        rw [element_bare]
      · refine hbody.succ.node_in_step fun node hnode => ?_
        refine hnode.required_in_step (by decide) (fun _ => expression_without) fun _ => ?_
        rw [elements_bare]
      · refine hbody.succ.node_in_step fun node hnode => ?_
        refine hnode.required_in_step (by decide) (fun _ => expression_without) fun _ => ?_
        rw [elements_bare]
      · refine hbody.succ.node_in_step fun node hnode => ?_
        refine hnode.optional_in_step (by decide) (fun _ => ih.block) fun _ => ?_
        refine hnode.optional_in_step (by decide) (fun _ => ih.block) fun _ => ?_
        refine hnode.required_in_step (by decide) (fun _ => expression_without) fun _ => ?_
        exact hnode.required_in_step (by decide) (fun _ => ih.block) fun _ => rfl
      · refine hbody.succ.node_in_step fun node hnode => ?_
        refine hnode.required_in_step (by decide) (fun _ => expression_without) fun _ => ?_
        refine hnode.list_in_step (by decide) (fun _ => ih.guarded (by decide)) fun _ => ?_
        exact hnode.optional_in_step (by decide) (fun _ => ih.block) fun _ => rfl
      · refine hbody.succ.node_in_step fun node hnode => ?_
        exact hnode.required_in_step (by decide) (fun _ => ih.block) fun _ => rfl
      · refine hbody.succ.node_in_step fun node hnode => ?_
        refine hnode.required_in_step (by decide) (fun _ => expression_without) fun _ => ?_
        rw [Node.requiredString_bare (by decide)]
      · rfl

theorem InStep.guarded_succ {kind guard : String} (ih : InStep n) (hguard : guard ≠ locationKey)
    (h : Bounded (n + 1) n' raw) :
    RawTree.guarded n' kind guard (raw.without locationKey)
      = RawTree.guarded (n + 1) kind guard raw := by
  cases n' with
  | zero =>
      exact h.refusal_in_step (fun n raw => RawTree.guarded n kind guard raw) (Or.inr rfl)
        guarded_of_not_mapping
  | succ n' =>
      rw [RawTree.guarded, RawTree.guarded]
      refine h.node_in_step fun node hnode => ?_
      refine hnode.required_in_step hguard (fun _ => expression_without) fun _ => ?_
      exact hnode.required_in_step (by decide) (fun _ => ih.block) fun _ => rfl

theorem inStep (n : Nat) : InStep n := by
  induction n with
  | zero =>
      constructor
      · intro n' raw h
        exact h.refusal_in_step block (Or.inl rfl) block_of_not_mapping
      · intro n' raw h
        exact h.refusal_in_step statement (Or.inl rfl) statement_of_not_mapping
      · intro n' kind guard raw _ h
        exact h.refusal_in_step (fun n raw => guarded n kind guard raw) (Or.inl rfl)
          guarded_of_not_mapping
  | succ n ih => exact ⟨ih.block_succ, ih.statement_succ, ih.guarded_succ⟩

/-! ## Declarations -/

theorem declaredSize_bare (node : Node) (name : String) :
    declaredSize node.bare name = declaredSize node name := by
  rw [declaredSize, declaredSize, Node.optional_bare (by decide)]
  cases node.optional "size" with
  | none => rfl
  | some raw => cases raw <;> rfl

theorem initialValue_without (type : ScalarType) (raw : Json) :
    initialValue type (raw.without locationKey) = initialValue type raw := by
  cases raw with
  | object members =>
      refine (bounded_self (.object members)).succ.node_in_step fun node hnode => ?_
      exact hnode.required_in_step (by decide) (fun value _ => literalText_without _ value)
        fun _ => rfl
  | _ => rfl

theorem definition_without (raw : Json) :
    definition (raw.without locationKey) = definition raw := by
  refine (bounded_self raw).succ.node_in_step fun node hnode => ?_
  rw [Node.requiredString_bare (by decide), Node.requiredString_bare (by decide)]
  refine bind_congr fun name => bind_congr fun typeName => bind_congr fun type => ?_
  rw [declaredSize_bare]
  refine bind_congr fun size => ?_
  exact hnode.list_in_step (by decide) (fun item _ => initialValue_without type item) fun _ => rfl

/-! ## Programs -/

/-- **Locations are inert.** A tree whose location metadata is deleted at every depth stands for the
    same program, or is refused with the same error, whatever the tree is. -/
theorem ofTree_without_locations (tree : Json) :
    Program.ofTree (tree.without "loc") = Program.ofTree tree := by
  show Program.ofTree (tree.without locationKey) = _
  refine (bounded_self tree).succ.node_in_step fun root hroot => ?_
  refine hroot.required_in_step (by decide) (fun _ => (inStep _).block) fun _ => ?_
  exact hroot.list_in_step (by decide) (fun raw _ => definition_without raw) fun _ => rfl

end RawTree

end PulseTimeline
