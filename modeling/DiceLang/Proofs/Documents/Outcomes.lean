import DiceLang.Outcome.Json
import DiceLang.Proofs.Documents.Layouts
import DiceLang.Proofs.Documents.Values
import DiceLang.Proofs.Nodes

/-!
# Written outcomes read back

The document for an outcome is read back from its text, so what is left is to understand it. That
gives the outcome itself exactly if the number written for each result is understood as the same
double and the document does not nest lists and objects too deeply. A result that is no finite
number is written as `null`, and then nothing is read, however deep it stands.
-/

namespace DiceLang

namespace Json

mutual

/-- How many lists and objects are nested in the document. -/
def depth : Json → Nat
  | list items => itemsDepth items + 1
  | object fields => fieldsDepth fields + 1
  | _ => 0

/-- The depth of the deepest item. -/
def itemsDepth : List Json → Nat
  | [] => 0
  | item :: rest => max item.depth (itemsDepth rest)

/-- The depth of the deepest value of a field. -/
def fieldsDepth : List (Option String × Json) → Nat
  | [] => 0
  | (_, value) :: rest => max value.depth (fieldsDepth rest)

end

theorem itemsDepth_le_iff {items : List Json} {room : Nat} :
    itemsDepth items ≤ room ↔ ∀ item ∈ items, item.depth ≤ room := by
  induction items with
  | nil => simp [itemsDepth]
  | cons item rest inductionHypothesis =>
    rw [itemsDepth, Nat.max_le, inductionHypothesis, List.forall_mem_cons]

theorem fieldsDepth_append (front back : List (Option String × Json)) :
    fieldsDepth (front ++ back) = max (fieldsDepth front) (fieldsDepth back) := by
  induction front with
  | nil => simp [fieldsDepth]
  | cons field rest inductionHypothesis =>
    rw [List.cons_append, fieldsDepth, fieldsDepth, inductionHypothesis, Nat.max_assoc]

end Json

namespace Outcome

open Decimal (Magnitude)

/-! ## The document -/

/-- Whether a double is a number that is not infinite. -/
def IsFinite (result : Float) : Prop :=
  ∃ size, Magnitude.ofFloat result = .finite size

/-- Whether the number that is written for a result is read back as the same double. -/
def ReadsBack (result : Float) : Prop :=
  (Json.parse (resultDocument result).render).bind result? = some result

theorem childrenToJson_eq_map (children : List Outcome) :
    childrenToJson children = children.map toJson := by
  induction children with
  | nil => rfl
  | cons child rest inductionHypothesis => rw [childrenToJson, inductionHypothesis, List.map_cons]

/-- The document for an outcome, from its four parts. -/
theorem toJson_eq (outcome : Outcome) :
    outcome.toJson = .object ((some "result", resultDocument outcome.result) ::
      rollsField outcome.rolls ++ childrenField (outcome.children.map toJson) ++
      [(some "explanation", .text (some outcome.explanation))]) := by
  obtain ⟨result, rolls, children, explanation⟩ := outcome
  rw [toJson, childrenToJson_eq_map]

/-! ### Well-formed numerals -/

theorem resultDocument_wellFormed (result : Float) : (resultDocument result).WellFormed := by
  rw [resultDocument]
  split
  next numeral written => exact .number (Decimal.Layout.wellFormed_of_numeral? written)
  next => exact .null

theorem rollsField_wellFormed (rolls : Option (List UInt64)) :
    ∀ field ∈ rollsField rolls, field.2.WellFormed := by
  cases rolls with
  | none => simp [rollsField]
  | some rolls =>
    have word (roll : UInt64) : (wordDocument roll).WellFormed :=
      .number (Decimal.Numeral.ofNat_wellFormed _)
    rw [rollsField, List.forall_mem_singleton]
    exact .list (by simpa using fun roll _ => word roll)

theorem childrenField_wellFormed {documents : List Json}
    (wellFormed : ∀ document ∈ documents, document.WellFormed) :
    ∀ field ∈ childrenField documents, field.2.WellFormed := by
  cases documents with
  | nil => simp [childrenField]
  | cons document rest =>
    rw [childrenField, List.forall_mem_singleton]
    · exact .list wellFormed
    · simp

mutual

/-- The document for an outcome has only well-formed numerals. -/
theorem toJson_wellFormed : (outcome : Outcome) → outcome.toJson.WellFormed
  | ⟨result, rolls, children, explanation⟩ => by
    rw [toJson]
    refine .object fun field member => ?_
    rcases List.mem_append.mp member with member | member
    · rcases List.mem_append.mp member with member | member
      · rcases List.mem_cons.mp member with rfl | member
        · exact resultDocument_wellFormed result
        · exact rollsField_wellFormed rolls field member
      · exact childrenField_wellFormed (childrenToJson_wellFormed children) field member
    · obtain rfl := List.mem_singleton.mp member
      exact .text

/-- The documents for a list of outcomes have only well-formed numerals. -/
theorem childrenToJson_wellFormed : (children : List Outcome) →
    ∀ document ∈ childrenToJson children, document.WellFormed
  | [], document, member => by cases member
  | child :: rest, document, member => by
    rcases List.mem_cons.mp member with rfl | member
    · exact toJson_wellFormed child
    · exact childrenToJson_wellFormed rest document member

end

/-! ### Depth -/

theorem depth_resultDocument (result : Float) : (resultDocument result).depth = 0 := by
  rw [resultDocument]
  split <;> rfl

theorem fieldsDepth_rollsField_le_iff {rolls : Option (List UInt64)} {room : Nat} :
    Json.fieldsDepth (rollsField rolls) ≤ room ↔ (rolls ≠ none → room ≠ 0) := by
  cases rolls with
  | none => simp [rollsField, Json.fieldsDepth]
  | some rolls =>
    have flat : Json.itemsDepth (rolls.map wordDocument) = 0 := by
      rw [← Nat.le_zero, Json.itemsDepth_le_iff]
      simp [wordDocument, Json.depth]
    simp [rollsField, Json.fieldsDepth, Json.depth, flat, Nat.one_le_iff_ne_zero]

theorem fieldsDepth_childrenField_le_iff {documents : List Json} {room : Nat} :
    Json.fieldsDepth (childrenField documents) ≤ room ↔
      (documents ≠ [] → room ≠ 0) ∧ ∀ document ∈ documents, document.depth ≤ room - 1 := by
  cases documents with
  | nil => simp [childrenField, Json.fieldsDepth]
  | cons document rest =>
    rw [← Json.itemsDepth_le_iff]
    simp only [childrenField, Json.fieldsDepth, Json.depth, ne_eq, List.cons_ne_nil,
      not_false_eq_true, forall_const]
    omega

/-- The document for an outcome is an object, in which a list of rolls and a list of children take
one more level and the children what they need themselves. -/
theorem depth_toJson_le_succ_iff {outcome : Outcome} {room : Nat} :
    outcome.toJson.depth ≤ room + 1 ↔
      (outcome.rolls ≠ none ∨ outcome.children ≠ [] → room ≠ 0) ∧
        ∀ child ∈ outcome.children, child.toJson.depth ≤ room - 1 := by
  rw [toJson_eq, Json.depth, Nat.succ_le_succ_iff, List.cons_append, List.cons_append,
    Json.fieldsDepth, Json.fieldsDepth_append, Json.fieldsDepth_append, Nat.max_le, Nat.max_le,
    Nat.max_le, fieldsDepth_rollsField_le_iff, fieldsDepth_childrenField_le_iff]
  simp only [depth_resultDocument, Json.fieldsDepth, Json.depth, Nat.zero_le, true_and, Nat.max_self,
    and_true, List.forall_mem_map, ne_eq, List.map_eq_nil_iff, ← and_assoc, or_imp]

/-! ## Understanding the document -/

/-- A mapped list is understood as the list it was made of, exactly if each of its items is. -/
theorem mapM_map_eq_some_iff {α β : Type} {write : α → β} {read : β → Option α} {items : List α} :
    (items.map write).mapM read = some items ↔ ∀ item ∈ items, read (write item) = some item := by
  induction items with
  | nil => simp
  | cons item rest inductionHypothesis =>
    rw [List.forall_mem_cons, ← inductionHypothesis, List.map_cons, List.mapM_cons]
    simp only [Option.bind_eq_bind, Option.bind_eq_some_iff, Option.pure_def, Option.some.injEq,
      List.cons.injEq]
    grind

/-- A list is only understood if each of its items is. -/
theorem exists_of_mapM_eq_some {α β : Type} {read : α → Option β} {items : List α}
    {results : List β} (understood : items.mapM read = some results) :
    ∀ item ∈ items, ∃ result, read item = some result := by
  induction items generalizing results with
  | nil => simp
  | cons item rest inductionHypothesis =>
    simp only [List.mapM_cons, Option.bind_eq_bind, Option.bind_eq_some_iff] at understood
    obtain ⟨result, itemRead, others, restRead, -⟩ := understood
    exact List.forall_mem_cons.mpr ⟨⟨result, itemRead⟩, inductionHypothesis restRead⟩

/-- The parts of the document for an outcome. -/
theorem parts_toJson (outcome : Outcome) :
    Parts.ofJson? outcome.toJson =
      some ⟨resultDocument outcome.result,
        outcome.rolls.map fun rolls => .list (rolls.map wordDocument),
        if outcome.children = [] then none else some (.list (outcome.children.map toJson)),
        .text (some outcome.explanation)⟩ := by
  rw [toJson_eq]
  cases outcome.rolls <;> cases outcome.children <;>
    simp [Parts.ofJson?, field?, rollsField, childrenField]

/-- The rolls of an outcome are understood, if there is room for their list. -/
theorem elim_rolls?_eq_some_iff {rolls restored : Option (List UInt64)} {room : Nat} :
    (rolls.map fun rolls => Json.list (rolls.map wordDocument)).elim (some none) (rolls? room) =
        some restored ↔
      (rolls ≠ none → room ≠ 0) ∧ restored = rolls := by
  cases rolls with
  | none => simp [eq_comm]
  | some rolls =>
    have words : (rolls.map wordDocument).mapM word? = some rolls :=
      mapM_map_eq_some_iff.mpr fun roll _ => Decimal.Numeral.toWord?_ofNat roll
    cases room <;> simp [rolls?, words, eq_comm]

/-- The children of an outcome are understood one by one, if there is room for their list. -/
theorem elim_children?_eq_some_iff {children restored : List Outcome} {room : Nat} :
    (if children = [] then none else some (Json.list (children.map toJson))).elim (some [])
        (children? room) = some restored ↔
      (children ≠ [] → room ≠ 0) ∧
        (children.map toJson).mapM (ofJson? (room - 1)) = some restored := by
  by_cases childless : children = []
  · simp [childless]
  · rw [if_neg childless, Option.elim_some]
    cases room <;> simp [childless, children?]

/-- What the document for an outcome is understood as: the result and the children are understood
one by one, the rolls and the explanation are those of the outcome, and rolls or children need
room for one more level. -/
theorem ofJson?_toJson_eq_some_iff {outcome restored : Outcome} {room : Nat} :
    ofJson? (room + 1) outcome.toJson = some restored ↔
      (outcome.rolls ≠ none ∨ outcome.children ≠ [] → room ≠ 0) ∧
        result? (resultDocument outcome.result) = some restored.result ∧
        restored.rolls = outcome.rolls ∧
        (outcome.children.map toJson).mapM (ofJson? (room - 1)) = some restored.children ∧
        restored.explanation = outcome.explanation := by
  obtain ⟨result, rolls, children, explanation⟩ := restored
  simp only [ofJson?, parts_toJson, Option.bind_eq_bind, Option.bind_some, Option.bind_eq_some_iff,
    elim_rolls?_eq_some_iff, elim_children?_eq_some_iff, explanation?, Option.pure_def,
    Option.some.injEq, mk.injEq, or_imp]
  constructor
  · rintro ⟨_, resultRead, _, ⟨rollsRoom, rfl⟩, _, ⟨childrenRoom, childrenRead⟩, rfl, rfl, rfl, same⟩
    exact ⟨⟨rollsRoom, childrenRoom⟩, resultRead, rfl, childrenRead, same.symm⟩
  · rintro ⟨⟨rollsRoom, childrenRoom⟩, resultRead, rfl, childrenRead, same⟩
    exact ⟨_, resultRead, _, ⟨rollsRoom, rfl⟩, _, ⟨childrenRoom, childrenRead⟩, rfl, rfl, rfl,
      same.symm⟩

/-- A result is only understood if it is finite. -/
theorem isFinite_of_result? {result restored : Float}
    (understood : result? (resultDocument result) = some restored) : IsFinite result := by
  rw [resultDocument, Decimal.Layout.numeral?] at understood
  split at understood
  next numeral written =>
    split at written
    next size finite => exact ⟨size, finite⟩
    next => cases written
  next => cases understood

/-- If anything is understood, every result is finite. -/
theorem isFinite_of_ofJson? {room : Nat} {outcome restored : Outcome}
    (understood : ofJson? room outcome.toJson = some restored) :
    ∀ path node, outcome.node? path = some node → IsFinite node.result := by
  induction room using Nat.strongRecOn generalizing outcome restored with
  | ind room inductionHypothesis =>
    cases room with
    | zero => cases understood
    | succ room =>
      obtain ⟨enoughRoom, resultRead, -, childrenRead, -⟩ :=
        ofJson?_toJson_eq_some_iff.mp understood
      refine forall_node_iff.mpr ⟨isFinite_of_result? resultRead, fun child isChild => ?_⟩
      obtain ⟨restoredChild, childRead⟩ := exists_of_mapM_eq_some childrenRead child.toJson
        (List.mem_map_of_mem isChild)
      exact inductionHypothesis (room - 1) (by omega) childRead

/-- The document for an outcome is understood as that outcome exactly if each result is understood
as itself and there is room enough. -/
theorem ofJson?_toJson_eq_self_iff {room : Nat} {outcome : Outcome} :
    ofJson? room outcome.toJson = some outcome ↔
      (∀ path node, outcome.node? path = some node →
        result? (resultDocument node.result) = some node.result) ∧
        outcome.toJson.depth ≤ room := by
  induction room using Nat.strongRecOn generalizing outcome with
  | ind room inductionHypothesis =>
    cases room with
    | zero => simp [ofJson?, toJson_eq, Json.depth]
    | succ room =>
      have fewer : room - 1 < room + 1 := by omega
      rw [ofJson?_toJson_eq_some_iff, forall_node_iff, depth_toJson_le_succ_iff,
        mapM_map_eq_some_iff]
      simp only [inductionHypothesis (room - 1) fewer, forall_and]
      constructor
      · rintro ⟨enoughRoom, here, -, ⟨below, shallow⟩, -⟩
        exact ⟨⟨here, below⟩, enoughRoom, shallow⟩
      · rintro ⟨⟨here, below⟩, enoughRoom, shallow⟩
        exact ⟨enoughRoom, here, trivial, ⟨below, shallow⟩, trivial⟩

/-! ## The text -/

/-- The text of an outcome is read as its document is understood. -/
theorem ofJsonText?_toJsonText (outcome : Outcome) :
    ofJsonText? outcome.toJsonText = ofJson? readingRoom outcome.toJson := by
  rw [ofJsonText?, toJsonText, Json.parse_render (toJson_wellFormed outcome)]
  rfl

/-- The text of a result is read back exactly if its document is understood as the result. -/
theorem readsBack_iff {result : Float} :
    ReadsBack result ↔ result? (resultDocument result) = some result := by
  rw [ReadsBack, Json.parse_render (resultDocument_wellFormed result), Option.bind_some]

/-- The text of an outcome is read back as exactly that outcome, with its rolls and children as
they are at every node, if and only if every result is finite and its number is read back as the
same double and no more than 127 lists and objects are nested. If there is a result that is not
finite, wherever it stands, nothing is read. -/
theorem written_outcome_reads_back (outcome : Outcome) :
    (ofJsonText? outcome.toJsonText = some outcome ↔
      (∀ path node, outcome.node? path = some node →
        IsFinite node.result ∧ ReadsBack node.result) ∧ outcome.toJson.depth ≤ 127) ∧
    ((∃ path node, outcome.node? path = some node ∧ ¬ IsFinite node.result) →
      ofJsonText? outcome.toJsonText = none) := by
  rw [ofJsonText?_toJsonText]
  constructor
  · rw [ofJson?_toJson_eq_self_iff]
    refine and_congr_left fun _ => forall₃_congr fun path node _ => ?_
    rw [readsBack_iff]
    exact ⟨fun understood => ⟨isFinite_of_result? understood, understood⟩, And.right⟩
  · rintro ⟨path, node, atPath, infinite⟩
    rw [Option.eq_none_iff_forall_ne_some]
    intro restored understood
    exact infinite (isFinite_of_ofJson? understood path node atPath)

end Outcome

end DiceLang
