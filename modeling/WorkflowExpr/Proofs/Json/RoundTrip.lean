import WorkflowExpr.Function.Standard
import WorkflowExpr.Proofs.Json.Document
import WorkflowExpr.Proofs.Number.Integer
import WorkflowExpr.Proofs.Value.Doubled
import WorkflowExpr.Proofs.Value.Shape

/-!
# The JSON round trip

The JSON text of a value is read as a value with the same text. If the numbers in the value are finite,
the value that is read mirrors it: it has the same parts in the same places, and every number is a double
that is equal to the one it came from.
-/

namespace WorkflowExpr

/-- A value of the language in which every object is keyed by texts, each of them once. -/
def Value.TextKeyed (v : Value) : Prop :=
  v.Shaped fun keys => ∃ names : List String, names.Nodup ∧ keys = names.map .text

/-- One value mirrors another: they differ in their numbers only, and equal doubles stand for these. -/
inductive Value.Mirrors : Value → Value → Prop where
  | null :
    Mirrors .null .null
  | boolean {b} :
    Mirrors (.boolean b) (.boolean b)
  | integer {n y} :
    (Double.ofInt n).equals y = true →
    Mirrors (.integer n) (.real y)
  | real {x y : Double} :
    x.equals y = true →
    Mirrors (.real x) (.real y)
  | string {s} :
    Mirrors (.string s) (.string s)
  | array {items items'} :
    List.Forall₂ Mirrors items items' →
    Mirrors (.array items) (.array items')
  | object {members members'} :
    members.map Prod.fst = members'.map Prod.fst →
    List.Forall₂ Mirrors (members.map Prod.snd) (members'.map Prod.snd) →
    Mirrors (.object members) (.object members')

namespace Double

/-- Zero is written without its sign. -/
lemma toJson_zero (negative : Bool) : (signed negative .zero).toJson = .integer 0 := by
  have zero : Magnitude.nearest 0 1 = .zero :=
    Magnitude.nearest_zero (by rw [Nat.zero_mul]; exact Nat.one_pos)
  have plain : (signed negative .zero).isPlainInteger = true := by
    have plain := isPlainInteger_ofInt (n := 0) (by decide)
    rwa [ofInt, Int.natAbs_zero, zero] at plain
  have truncate : (signed negative .zero).truncate = 0 := by
    have floor := Magnitude.floor_natural (n := 0) (by decide)
    rw [zero] at floor
    cases negative with
    | _ => simp [truncate, floor]
  have finite : (signed negative .zero).isFinite = true := rfl
  rw [toJson, finite, plain, truncate]
  rfl

/-- Equal doubles have the same JSON form. -/
lemma toJson_of_equals {x y : Double} (h : x.equals y = true) : x.toJson = y.toJson := by
  obtain ⟨b, b', m, rfl, rfl, rfl | rfl⟩ := exists_of_equals h
  · rfl
  · rw [toJson_zero, toJson_zero]

/-- A double is written as null, as its integer part or as itself. -/
lemma toJson_cases (x : Double) :
    (x.isFinite = false ∧ x.toJson = .null) ∨ (x.isIntegral = true ∧ x.toJson = .integer x.truncate) ∨
      (x.isFinite = true ∧ x.toJson = .real x) := by
  rw [toJson]
  cases finite : x.isFinite with
  | false => exact .inl ⟨rfl, rfl⟩
  | true =>
    cases plain : x.isPlainInteger with
    | false => exact .inr (.inr ⟨rfl, rfl⟩)
    | true => exact .inr (.inl ⟨isIntegral_of_plain plain, rfl⟩)

/-- What is read for a finite double is equal to it. -/
lemma exists_doubled {x : Double} (h : x.isFinite = true) :
    ∃ y, (Value.ofJson x.toJson).doubled = .real y ∧ x.equals y = true := by
  rcases toJson_cases x with ⟨infinite, -⟩ | ⟨integral, text⟩ | ⟨-, text⟩
  · cases infinite.symm.trans h
  · rw [text]
    exact ⟨_, rfl, equals_ofInt_truncate integral⟩
  · rw [text]
    cases x with
    | nan => cases h
    | signed negative m => exact ⟨_, rfl, equals_signed (.inl rfl)⟩

/-- The JSON form of a double is canonical. -/
lemma canonical_toJson (x : Double) : x.toJson.Canonical := by
  rcases toJson_cases x with ⟨-, text⟩ | ⟨integral, text⟩ | ⟨-, text⟩
  · rw [text]
    exact .null
  · have same := toJson_of_equals (equals_ofInt_truncate integral)
    rw [text] at same ⊢
    exact .integer same.symm
  · rw [text]
    exact .real text

end Double

namespace Json

section Fields

variable {name : String} {value : Json} {fields : List (String × Json)}

/-- Setting a field brings no other name. -/
lemma mem_names_setField {n : String} (h : n ∈ (setField name value fields).map Prod.fst) :
    n = name ∨ n ∈ fields.map Prod.fst := by
  induction fields with
  | nil => exact .inl (List.mem_singleton.1 h)
  | cons field rest ih =>
    rw [setField] at h
    split at h
    · exact .inr h
    · rcases List.mem_cons.1 h with rfl | h
      · exact .inr (List.mem_cons_self ..)
      · exact (ih h).imp_right (List.mem_cons_of_mem _)

/-- Names stay different when a field is set. -/
lemma nodup_setField (h : (fields.map Prod.fst).Nodup) :
    ((setField name value fields).map Prod.fst).Nodup := by
  induction fields with
  | nil => exact List.nodup_cons.2 ⟨List.not_mem_nil, List.nodup_nil⟩
  | cons field rest ih =>
    obtain ⟨fresh, distinct⟩ := List.nodup_cons.1 h
    rw [setField]
    split
    · exact h
    · next other =>
      refine List.nodup_cons.2 ⟨fun mem => ?_, ih distinct⟩
      exact (mem_names_setField mem).elim other fresh

/-- What holds of the value that is set and of all others holds afterwards. -/
lemma forall_setField {P : Json → Prop} (hv : P value) (h : ∀ field ∈ fields, P field.2) :
    ∀ field ∈ setField name value fields, P field.2 := by
  induction fields with
  | nil => exact List.forall_mem_singleton.2 hv
  | cons field rest ih =>
    obtain ⟨first, others⟩ := List.forall_mem_cons.1 h
    rw [setField]
    split
    · exact List.forall_mem_cons.2 ⟨hv, others⟩
    · exact List.forall_mem_cons.2 ⟨first, ih others⟩

end Fields

/-- An object to which canonical entries add up is canonical. -/
lemma canonical_ofEntries {entries : List (String × Json)} (h : ∀ entry ∈ entries, entry.2.Canonical) :
    (ofEntries entries).Canonical := by
  have run (fields : List (String × Json)) (distinct : (fields.map Prod.fst).Nodup)
      (canonical : ∀ field ∈ fields, field.2.Canonical) : (object (entries.foldl
        (fun fields entry => setField entry.1 entry.2 fields) fields)).Canonical := by
    induction entries generalizing fields with
    | nil => exact .object distinct canonical
    | cons entry rest ih =>
      obtain ⟨first, others⟩ := List.forall_mem_cons.1 h
      exact ih others _ (nodup_setField distinct) (forall_setField first canonical)
  exact run [] List.nodup_nil (List.forall_mem_nil _)

end Json

namespace Value

mutual

/-- Values are written as documents in canonical form. -/
theorem canonical_toJson : (v : Value) → ∀ {j}, v.toJson = .ok j → j.Canonical
  | null, _, rfl => .null
  | boolean _, _, rfl => .boolean
  | integer n, _, h => by
    rw [← Except.ok.inj h]
    exact Double.canonical_toJson (.ofInt n)
  | real x, _, h => by
    rw [← Except.ok.inj h]
    exact Double.canonical_toJson x
  | string _, _, rfl => .string
  | array items, _, h => by
    obtain ⟨js, hs, ⟨⟩⟩ := bind_eq_ok.1 h
    exact .array (canonical_itemsToJson items hs)
  | object members, _, h => by
    obtain ⟨fields, hs, ⟨⟩⟩ := bind_eq_ok.1 h
    exact Json.canonical_ofEntries (canonical_membersToJson members hs)
  | foreign _, _, h => nomatch h

/-- The JSON forms of items are canonical. -/
theorem canonical_itemsToJson : (items : List Value) → ∀ {js}, itemsToJson items = .ok js →
    ∀ j ∈ js, j.Canonical
  | [], _, rfl => List.forall_mem_nil _
  | item :: rest, _, h => by
    obtain ⟨j, hj, h⟩ := bind_eq_ok.1 h
    obtain ⟨js, hs, ⟨⟩⟩ := bind_eq_ok.1 h
    exact List.forall_mem_cons.2 ⟨canonical_toJson item hj, canonical_itemsToJson rest hs⟩

/-- The JSON forms of the values of members are canonical. -/
theorem canonical_membersToJson : (members : List (Key × Value)) → ∀ {fields},
    membersToJson members = .ok fields → ∀ field ∈ fields, field.2.Canonical
  | [], _, rfl => List.forall_mem_nil _
  | (key, value) :: rest, _, h => by
    obtain ⟨-, j, hj, js, hs, rfl⟩ := membersToJson_inv h
    exact List.forall_mem_cons.2 ⟨canonical_toJson value hj, canonical_membersToJson rest hs⟩

end

/-- Items that are written as the documents that they come from are together written as these. -/
lemma itemsToJson_ofJson {items : List Json} (h : ∀ item ∈ items, (ofJson item).toJson = .ok item) :
    itemsToJson (ofJsonItems items) = .ok items := by
  induction items with
  | nil => rfl
  | cons item rest ih =>
    obtain ⟨first, others⟩ := List.forall_mem_cons.1 h
    rw [ofJsonItems, itemsToJson, first, ih others]
    rfl

/-- Members that are written as the documents that they come from are together written as these. -/
lemma membersToJson_ofJson {fields : List (String × Json)}
    (h : ∀ field ∈ fields, (ofJson field.2).toJson = .ok field.2) :
    membersToJson (ofJsonFields fields) = .ok fields := by
  induction fields with
  | nil => rfl
  | cons field rest ih =>
    obtain ⟨first, others⟩ := List.forall_mem_cons.1 h
    rw [ofJsonFields, membersToJson_cons rfl, first, ih others]
    rfl

/-- A document in canonical form is what its value is written as. -/
theorem toJson_ofJson {j : Json} (h : j.Canonical) : (ofJson j).toJson = .ok j := by
  induction h with
  | null => rfl
  | boolean => rfl
  | integer canonical => exact congrArg Except.ok canonical
  | real canonical => exact congrArg Except.ok canonical
  | string => rfl
  | array _ ih => rw [ofJson, toJson, itemsToJson_ofJson ih]; rfl
  | object distinct _ ih =>
    rw [ofJson, toJson, membersToJson_ofJson ih]
    exact congrArg Except.ok (Json.ofEntries_eq distinct)

mutual

/-- It makes no difference whether a document is doubled or the value that it is read as. -/
theorem ofJson_doubled : (j : Json) → ofJson j.doubled = (ofJson j).doubled
  | .null => rfl
  | .boolean _ => rfl
  | .integer _ => by rw [Json.doubled, ofJson, ofJson, doubled]
  | .real _ => rfl
  | .string _ => rfl
  | .array items => by rw [Json.doubled, ofJson, ofJson, doubled, ofJsonItems_doubled items]
  | .object fields => by rw [Json.doubled, ofJson, ofJson, doubled, ofJsonFields_doubled fields]

/-- The same for each of some items. -/
theorem ofJsonItems_doubled : (items : List Json) →
    ofJsonItems (Json.doubledItems items) = doubledItems (ofJsonItems items)
  | [] => rfl
  | item :: rest => congrArg₂ List.cons (ofJson_doubled item) (ofJsonItems_doubled rest)

/-- The same for each of some fields. -/
theorem ofJsonFields_doubled : (fields : List (String × Json)) →
    ofJsonFields (Json.doubledFields fields) = doubledMembers (ofJsonFields fields)
  | [] => rfl
  | (name, value) :: rest =>
    congrArg₂ List.cons (congrArg (Prod.mk (Key.text name)) (ofJson_doubled value))
      (ofJsonFields_doubled rest)

end

/-- The JSON text of a value is read as the value of its JSON form, with doubles for integers. -/
theorem fromJson_toJson {v : Value} {j : Json} (h : v.toJson = .ok j) :
    Standard.fromJson (string j.compact) = .ok (ofJson j).doubled := by
  rw [← ofJson_doubled, Standard.fromJson, toText]
  simp only [bind, Except.bind, Json.read_compact (canonical_toJson v h)]
  rfl

/-- The names of fields are the texts of the keys that they come from. -/
lemma names_membersToJson {members : List (Key × Value)} {fields : List (String × Json)}
    (h : membersToJson members = .ok fields) :
    fields.map Prod.fst = (members.map Prod.fst).map Key.display := by
  induction members generalizing fields with
  | nil =>
    cases h
    rfl
  | cons member rest ih =>
    obtain ⟨-, j, -, js, hs, rfl⟩ := membersToJson_inv h
    rw [List.map_cons, ih hs, List.map_cons, List.map_cons]

/-- Doubles in the values leave the keys as they are. -/
lemma keys_doubledMembers (members : List (Key × Value)) :
    (doubledMembers members).map Prod.fst = members.map Prod.fst := by
  rw [doubledMembers_eq_map, List.map_map]
  rfl

mutual

/-- A value with finite numbers mirrors what is read back from its JSON form. -/
theorem mirrors_ofJson : (v : Value) → v.TextKeyed → (∀ x ∈ v.numbers, x.isFinite = true) → ∀ {j},
    v.toJson = .ok j → v.Mirrors (ofJson j).doubled
  | null, _, _, _, rfl => .null
  | boolean _, _, _, _, rfl => .boolean
  | integer n, _, finite, _, h => by
    obtain ⟨y, value, equal⟩ := Double.exists_doubled (finite (.ofInt n) (.head _))
    rw [← Except.ok.inj h, value]
    exact .integer equal
  | real x, _, finite, _, h => by
    obtain ⟨y, value, equal⟩ := Double.exists_doubled (finite x (.head _))
    rw [← Except.ok.inj h, value]
    exact .real equal
  | string _, _, _, _, rfl => .string
  | array items, keyed, finite, _, h => by
    obtain ⟨js, hs, ⟨⟩⟩ := bind_eq_ok.1 h
    cases keyed with
    | array keyed => exact .array (mirrorsItems_ofJson items keyed finite hs)
  | object members, keyed, finite, _, h => by
    obtain ⟨fields, hs, ⟨⟩⟩ := bind_eq_ok.1 h
    cases keyed with
    | object keys keyed =>
      -- The keys are distinct texts, so reading back keeps every member in its place.
      obtain ⟨names, distinct, keys⟩ := keys
      have same : fields.map Prod.fst = names := by
        rw [names_membersToJson hs, keys, List.map_map]
        exact List.map_id names
      rw [Json.ofEntries_eq (by rwa [same])]
      refine .object ?_ (mirrorsMembers_ofJson members keyed finite hs)
      show _ = (doubledMembers (ofJsonFields fields)).map Prod.fst
      rw [keys_doubledMembers, keys_ofJsonFields, same, keys]
  | foreign _, _, _, _, h => nomatch h

/-- The same for each of some items. -/
theorem mirrorsItems_ofJson : (items : List Value) → (∀ v ∈ items, v.TextKeyed) →
    (∀ x ∈ itemNumbers items, x.isFinite = true) → ∀ {js}, itemsToJson items = .ok js →
      List.Forall₂ Mirrors items (doubledItems (ofJsonItems js))
  | [], _, _, _, rfl => .nil
  | item :: rest, keyed, finite, _, h => by
    obtain ⟨j, hj, h⟩ := bind_eq_ok.1 h
    obtain ⟨js, hs, ⟨⟩⟩ := bind_eq_ok.1 h
    obtain ⟨first, others⟩ := List.forall_mem_cons.1 keyed
    obtain ⟨finite, finite'⟩ := List.forall_mem_append.1 finite
    exact .cons (mirrors_ofJson item first finite hj) (mirrorsItems_ofJson rest others finite' hs)

/-- The same for the value of each of some members. -/
theorem mirrorsMembers_ofJson : (members : List (Key × Value)) →
    (∀ member ∈ members, member.2.TextKeyed) → (∀ x ∈ memberNumbers members, x.isFinite = true) →
      ∀ {fields}, membersToJson members = .ok fields →
        List.Forall₂ Mirrors (members.map Prod.snd) ((doubledMembers (ofJsonFields fields)).map Prod.snd)
  | [], _, _, _, rfl => .nil
  | (key, value) :: rest, keyed, finite, _, h => by
    obtain ⟨-, j, hj, js, hs, rfl⟩ := membersToJson_inv h
    obtain ⟨first, others⟩ := List.forall_mem_cons.1 keyed
    obtain ⟨finite, finite'⟩ := List.forall_mem_append.1 finite
    exact .cons (mirrors_ofJson value first finite hj) (mirrorsMembers_ofJson rest others finite' hs)

end

/-- A value that is keyed by texts can be written. -/
lemma TextKeyed.writable {v : Value} (h : v.TextKeyed) : v.Writable := by
  apply h.mono
  rintro _ ⟨names, -, rfl⟩ key mem
  obtain ⟨name, -, rfl⟩ := List.mem_map.1 mem
  rfl

end Value

/-- The JSON text of a value is read as a value with the same text. Where the value has finite numbers
alone, the value that is read mirrors it. -/
theorem json_round_trip {v : Value} (h : v.TextKeyed) :
    ∃ text w, Standard.toJson v = .ok (.string text) ∧ Standard.fromJson (.string text) = .ok w ∧
      Standard.toJson w = .ok (.string text) ∧
      ((∀ x ∈ v.numbers, x.isFinite = true) → v.Mirrors w) := by
  obtain ⟨j, hj⟩ := v.exists_toJson_iff.2 h.writable
  have again : (Value.ofJson j).doubled.toJson = .ok j := by
    rw [Value.toJson_doubled, Value.toJson_ofJson (v.canonical_toJson hj)]
  refine ⟨j.compact, (Value.ofJson j).doubled, ?_, Value.fromJson_toJson hj, ?_, ?_⟩
  · rw [Standard.toJson, Value.toJsonText, hj]
    rfl
  · rw [Standard.toJson, Value.toJsonText, again]
    rfl
  · exact fun finite => v.mirrors_ofJson h finite hj

/-- A nested value comes back from its JSON text, with doubles for the integers in it. -/
theorem json_round_trip_nested :
    let v : Value := .object [(.text "a\n", .array [.null, .boolean true, .integer (-3)]),
      (.text "b", .object [(.text "a\n", .string "\"x\"")])]
    ∃ text w, Standard.toJson v = .ok (.string text) ∧ Standard.fromJson (.string text) = .ok w ∧
      Standard.toJson w = .ok (.string text) ∧ v.Mirrors w := by
  intro v
  have keyed : v.TextKeyed := by
    apply Value.Shaped.object ⟨["a\n", "b"], by decide, rfl⟩
    refine List.forall_mem_cons.2 ⟨?_, List.forall_mem_singleton.2 ?_⟩
    · apply Value.Shaped.array
      rintro _ (_ | ⟨_, _ | ⟨_, _ | ⟨_, ⟨⟩⟩⟩⟩)
      · exact .null
      · exact .boolean
      · exact .integer
    · exact .object ⟨["a\n"], by decide, rfl⟩ (List.forall_mem_singleton.2 .string)
  have finite : ∀ x ∈ v.numbers, x.isFinite = true :=
    List.forall_mem_singleton.2 (Magnitude.nearest_natural (by decide)).2
  obtain ⟨text, w, written, read, again, mirrors⟩ := json_round_trip keyed
  exact ⟨text, w, written, read, again, mirrors finite⟩

end WorkflowExpr
