import WorkflowExpr.Proofs.Json.Scalar
import WorkflowExpr.Value.Plain

/-!
# Reading written documents

The documents that values are written as have distinct names and only finite numbers in them. The compact
text of such a document is read as the document itself with its integers as doubles.
-/

namespace WorkflowExpr

/-- A document in the form that values are written in: every number has the form of its double, and no
name of an object comes up twice. -/
inductive Json.Canonical : Json → Prop where
  | null :
    Canonical .null
  | boolean {b} :
    Canonical (.boolean b)
  | integer {n} :
    (Double.ofInt n).toJson = .integer n →
    Canonical (.integer n)
  | real {x : Double} :
    x.toJson = .real x →
    Canonical (.real x)
  | string {s} :
    Canonical (.string s)
  | array {items} :
    (∀ item ∈ items, Canonical item) →
    Canonical (.array items)
  | object {fields} :
    (fields.map Prod.fst).Nodup →
    (∀ field ∈ fields, Canonical field.2) →
    Canonical (.object fields)

namespace Json

mutual

/-- The document with every integer in it, at any depth, replaced by its double. -/
def doubled : Json → Json
  | null => null
  | boolean b => boolean b
  | integer n => real (.ofInt n)
  | real x => real x
  | string s => string s
  | array items => array (doubledItems items)
  | object fields => object (doubledFields fields)

/-- Items with every integer in them replaced by its double. -/
def doubledItems : List Json → List Json
  | [] => []
  | item :: rest => item.doubled :: doubledItems rest

/-- Fields with every integer in their values replaced by its double. -/
def doubledFields : List (String × Json) → List (String × Json)
  | [] => []
  | (name, value) :: rest => (name, value.doubled) :: doubledFields rest

end

section Texts

/-- The texts of items with commas between them. -/
def itemsText (items : List Json) : List Char :=
  [','].intercalate (items.map fun item => item.compact.toList)

/-- The text of a field. -/
def fieldText (field : String × Json) : List Char :=
  (quoted field.1).toList ++ ':' :: field.2.compact.toList

/-- The texts of fields with commas between them. -/
def fieldsText (fields : List (String × Json)) : List Char :=
  [','].intercalate (fields.map fieldText)

/-- A quoted text is made of the escaped characters between two quotes. -/
lemma toList_quoted (s : String) : (quoted s).toList = '"' :: (s.toList.flatMap escape ++ ['"']) := by
  simp [quoted]

/-- The texts of items are written one by one. -/
lemma compactItems_eq_map (items : List Json) : compactItems items = items.map compact := by
  induction items with
  | nil => rfl
  | cons item rest ih => rw [compactItems, ih, List.map_cons]

/-- The texts of fields are written one by one. -/
lemma compactFields_eq_map (fields : List (String × Json)) :
    compactFields fields = fields.map fun field => quoted field.1 ++ ":" ++ field.2.compact := by
  induction fields with
  | nil => rfl
  | cons field rest ih => rw [compactFields, ih, List.map_cons]

/-- An array is written as its items in brackets. -/
lemma compact_array (items : List Json) :
    (array items).compact.toList = '[' :: (itemsText items ++ [']']) := by
  simp [compact, compactItems_eq_map, itemsText, String.toList_intercalate, Function.comp_def]

/-- An object is written as its fields in braces. -/
lemma compact_object (fields : List (String × Json)) :
    (object fields).compact.toList = '\x7b' :: (fieldsText fields ++ ['\x7d']) := by
  simp [compact, compactFields_eq_map, fieldsText, String.toList_intercalate, Function.comp_def]
  rfl

/-- A comma stands behind each item but the last one. -/
lemma itemsText_cons (item item' : Json) (rest : List Json) :
    itemsText (item :: item' :: rest) = item.compact.toList ++ ',' :: itemsText (item' :: rest) := by
  simp [itemsText, List.intercalate_cons_cons]

/-- A comma stands behind each field but the last one. -/
lemma fieldsText_cons (field field' : String × Json) (rest : List (String × Json)) :
    fieldsText (field :: field' :: rest) = fieldText field ++ ',' :: fieldsText (field' :: rest) := by
  simp [fieldsText, List.intercalate_cons_cons]

/-- One item is written without a comma. -/
lemma itemsText_singleton (item : Json) : itemsText [item] = item.compact.toList := by
  rw [itemsText, List.map_singleton, List.intercalate_singleton]

/-- One field is written without a comma. -/
lemma fieldsText_singleton (field : String × Json) : fieldsText [field] = fieldText field := by
  rw [fieldsText, List.map_singleton, List.intercalate_singleton]

/-- A field is as long as its name and its value, with a colon between them. -/
lemma length_fieldText (name : String) (value : Json) :
    (fieldText (name, value)).length =
      (quoted name).toList.length + 1 + value.compact.toList.length := by
  rw [fieldText, List.length_append, List.length_cons, Nat.add_assoc, Nat.add_comm 1]

/-- The text of items starts with that of the first one. -/
lemma exists_itemsText (item : Json) (rest : List Json) :
    ∃ tail, itemsText (item :: rest) = item.compact.toList ++ tail := by
  cases rest with
  | nil => exact ⟨[], by rw [itemsText_singleton, List.append_nil]⟩
  | cons item' rest => exact ⟨_, itemsText_cons item item' rest⟩

/-- The text of fields starts with the name of the first one. -/
lemma exists_fieldsText (field : String × Json) (rest : List (String × Json)) :
    ∃ tail, fieldsText (field :: rest) = (quoted field.1).toList ++ tail := by
  cases rest with
  | nil => exact ⟨_, fieldsText_singleton field⟩
  | cons field' rest =>
    rw [fieldsText_cons, fieldText, List.append_assoc]
    exact ⟨_, rfl⟩

/-- The characters that a text is told by: spaces and brackets, quotes and the byte order mark. -/
def marks : List Char :=
  [' ', '\t', '\n', '\r', '[', ']', '\x7b', '"', '\ufeff']

/-- What is no mark is no space. -/
lemma isSpace_of_not_mem {c : Char} (h : c ∉ marks) : isSpace c = false := by
  simp only [marks, List.mem_cons, not_or] at h
  simp [isSpace, h]

/-- A decimal starts with no mark. -/
lemma exists_chars (n : WrittenDecimal) : ∃ c cs, n.chars = c :: cs ∧ c ∉ marks := by
  obtain ⟨c, cs, e⟩ := List.exists_cons_of_ne_nil n.chars_ne_nil
  have signs : ∀ d ∈ marks, d.isDigit = false ∧ d ∉ ['-', '+', '.', 'e'] :=
    List.all_iff_forall_prop.1 (by decide)
  refine ⟨c, cs, e, fun mark => ?_⟩
  rcases n.mem_chars (show c ∈ n.chars by rw [e]; exact List.mem_cons_self ..) with digit | sign
  · cases (signs c mark).1.symm.trans digit
  · exact (signs c mark).2 sign

/-- An integer is written as a decimal and read back as its double. -/
lemma exists_integer (i : Int) :
    ∃ n : WrittenDecimal,
      (integer i).compact.toList = n.chars ∧ (integer i).doubled = nearest n.chars := by
  obtain ⟨n, chars, value⟩ := WrittenDecimal.exists_integer i
  exact ⟨n, chars.symm, congrArg real value.symm⟩

/-- A double that stays one as JSON is written as a decimal and read back. -/
lemma exists_real {x : Double} (h : x.toJson = .real x) :
    ∃ n : WrittenDecimal, (real x).compact.toList = n.chars ∧ (real x).doubled = nearest n.chars := by
  have finite : x.isFinite = true := by
    cases finite : x.isFinite with
    | true => rfl
    | false =>
      rw [Double.toJson, finite] at h
      cases h
  have text : numberText x = x.shortestText := by
    cases x with
    | nan => cases finite
    | signed negative m => exact if_pos finite
  obtain ⟨n, chars, value, -⟩ := WrittenDecimal.exists_shortestText finite
  exact ⟨n, by rw [compact, text, chars], congrArg real value.symm⟩

/-- The text of a document starts with no space and with nothing that ends an array. -/
lemma exists_compact {j : Json} (h : j.Canonical) :
    ∃ c cs, j.compact.toList = c :: cs ∧ isSpace c = false ∧ c ≠ ']' ∧ c ≠ '\ufeff' := by
  have number (n : WrittenDecimal) :
      ∃ c cs, n.chars = c :: cs ∧ isSpace c = false ∧ c ≠ ']' ∧ c ≠ '\ufeff' := by
    obtain ⟨c, cs, e, mark⟩ := exists_chars n
    refine ⟨c, cs, e, isSpace_of_not_mem mark, ?_, ?_⟩
    all_goals
      rintro rfl
      exact mark (by decide)
  cases h with
  | null => exact ⟨_, _, rfl, by decide⟩
  | @boolean b =>
    cases b with
    | true => exact ⟨_, _, rfl, by decide⟩
    | false => exact ⟨_, _, rfl, by decide⟩
  | @integer i =>
    obtain ⟨n, text, -⟩ := exists_integer i
    rw [text]
    exact number n
  | real canonical =>
    obtain ⟨n, text, -⟩ := exists_real canonical
    rw [text]
    exact number n
  | @string s =>
    rw [compact, toList_quoted]
    exact ⟨_, _, rfl, by decide⟩
  | @array items =>
    rw [compact_array]
    exact ⟨_, _, rfl, by decide⟩
  | @object fields =>
    rw [compact_object]
    exact ⟨_, _, rfl, by decide⟩

/-- No document is written as an empty text. -/
lemma length_compact {j : Json} (h : j.Canonical) : 0 < j.compact.toList.length := by
  obtain ⟨c, cs, e, -⟩ := exists_compact h
  rw [e]
  exact Nat.succ_pos _

end Texts

section Names

/-- Doubles in the values leave the names as they are. -/
lemma names_doubledFields (fields : List (String × Json)) :
    (doubledFields fields).map Prod.fst = fields.map Prod.fst := by
  induction fields with
  | nil => rfl
  | cons field rest ih => rw [doubledFields, List.map_cons, List.map_cons, ih]

/-- A new name is set at the end. -/
lemma setField_of_not_mem {name : String} {value : Json} {fields : List (String × Json)}
    (h : name ∉ fields.map Prod.fst) : setField name value fields = fields ++ [(name, value)] := by
  induction fields with
  | nil => rfl
  | cons field rest ih =>
    rw [List.map_cons, List.mem_cons, not_or] at h
    rw [setField, if_neg (Ne.symm h.1), ih h.2, List.cons_append]

/-- Fields with different names are set in their order. -/
lemma foldl_setField (fields entries : List (String × Json))
    (h : ((fields ++ entries).map Prod.fst).Nodup) :
    entries.foldl (fun fields entry => setField entry.1 entry.2 fields) fields = fields ++ entries := by
  induction entries generalizing fields with
  | nil => rw [List.foldl_nil, List.append_nil]
  | cons entry rest ih =>
    have fresh : entry.1 ∉ fields.map Prod.fst := by
      rw [List.map_append, List.map_cons] at h
      exact fun mem => (List.nodup_append.1 h).2.2 _ mem _ (List.mem_cons_self ..) rfl
    have h' : ((fields ++ [entry] ++ rest).map Prod.fst).Nodup := by
      rwa [List.append_assoc, List.singleton_append]
    rw [List.foldl_cons, setField_of_not_mem fresh, ih _ h', List.append_assoc, List.singleton_append]

/-- Entries with distinct names are the fields of their object. -/
lemma ofEntries_eq {entries : List (String × Json)} (h : (entries.map Prod.fst).Nodup) :
    ofEntries entries = .object entries := by
  rw [ofEntries, foldl_setField [] entries h, List.nil_append]

end Names

section Steps

variable {cs rest : List Char} {c : Char} {fuel : Nat} {item value : Json} {name : String}

/-- What does not start with a space has none to skip. -/
lemma skipSpace_cons (h : isSpace c = false) : skipSpace (c :: cs) = c :: cs :=
  List.dropWhile_cons_of_neg (by rw [h]; exact Bool.false_ne_true)

/-- What starts with no quote, bracket or brace is read as a scalar. -/
lemma readValue_scalar (h : c ∉ ['"', '[', '\x7b']) :
    readValue nearest (fuel + 1) (c :: cs) = readScalar nearest (c :: cs) := by
  simp only [List.mem_cons, List.not_mem_nil, or_false, not_or] at h
  obtain ⟨quote, bracket, brace⟩ := h
  simp [readValue, quote, bracket, brace]

/-- A quoted text is read back as that text. -/
lemma readValue_quoted (s : String) :
    readValue nearest (fuel + 1) ((quoted s).toList ++ rest) = .ok (.string s, rest) := by
  rw [toList_quoted, List.cons_append, List.append_assoc, List.singleton_append, readValue,
    readString_escaped, List.reverse_nil, List.nil_append]
  exact congrArg (fun s => Except.ok (string s, rest)) String.ofList_toList

/-- A quoted name in front of a colon is read back as that name. -/
lemma readName_quoted (s : String) :
    readName ((quoted s).toList ++ ':' :: rest) = .ok (s, skipSpace rest) := by
  rw [toList_quoted, List.cons_append, List.append_assoc, List.singleton_append, readName,
    readString_escaped, List.reverse_nil, List.nil_append]
  exact congrArg (fun s => Except.ok (s, skipSpace rest)) String.ofList_toList

/-- The text of a document has no space to skip in front. -/
lemma skipSpace_compact {j : Json} (h : j.Canonical) (rest : List Char) :
    skipSpace (j.compact.toList ++ rest) = j.compact.toList ++ rest := by
  obtain ⟨c, cs, e, space, -⟩ := exists_compact h
  rw [e]
  exact skipSpace_cons space

/-- The text of items has no space to skip in front. -/
lemma skipSpace_itemsText (h : item.Canonical) (items : List Json) (rest : List Char) :
    skipSpace (itemsText (item :: items) ++ rest) = itemsText (item :: items) ++ rest := by
  obtain ⟨behind, start⟩ := exists_itemsText item items
  rw [start, List.append_assoc]
  exact skipSpace_compact h _

/-- The text of fields has no space to skip in front. -/
lemma skipSpace_fieldsText (field : String × Json) (fields : List (String × Json)) (rest : List Char) :
    skipSpace (fieldsText (field :: fields) ++ rest) = fieldsText (field :: fields) ++ rest := by
  obtain ⟨behind, start⟩ := exists_fieldsText field fields
  rw [start, toList_quoted]
  exact skipSpace_cons rfl

/-- The text of a field is read as its name, up to its value. -/
lemma readName_fieldText (h : value.Canonical) (rest : List Char) :
    readName (fieldText (name, value) ++ rest) = .ok (name, value.compact.toList ++ rest) := by
  rw [fieldText, List.append_assoc, List.cons_append, readName_quoted, skipSpace_compact h]

/-- An item in front of the closing bracket is the last one. -/
lemma readItems_close (taken : List Json) (h : readValue nearest fuel cs = .ok (item, ']' :: rest)) :
    readItems nearest (fuel + 1) taken cs = .ok (.array (taken.reverse ++ [item]), rest) := by
  rw [readItems, h, ← List.reverse_cons]
  rfl

/-- An item in front of a comma is followed by others. -/
lemma readItems_comma (taken : List Json) (h : readValue nearest fuel cs = .ok (item, ',' :: rest)) :
    readItems nearest (fuel + 1) taken cs =
      readItems nearest fuel (item :: taken) (skipSpace rest) := by
  rw [readItems, h]
  rfl

/-- A field in front of the closing brace is the last one. -/
lemma readFields_close (taken : List (String × Json)) {cs' : List Char}
    (hn : readName cs = .ok (name, cs'))
    (h : readValue nearest fuel cs' = .ok (value, '\x7d' :: rest)) :
    readFields nearest (fuel + 1) taken cs =
      .ok (ofEntries (taken.reverse ++ [(name, value)]), rest) := by
  rw [readFields, hn, ← List.reverse_cons]
  show (readValue nearest fuel cs' >>= _) = _
  rw [h]
  rfl

/-- A field in front of a comma is followed by others. -/
lemma readFields_comma (taken : List (String × Json)) {cs' : List Char}
    (hn : readName cs = .ok (name, cs'))
    (h : readValue nearest fuel cs' = .ok (value, ',' :: rest)) :
    readFields nearest (fuel + 1) taken cs =
      readFields nearest fuel ((name, value) :: taken) (skipSpace rest) := by
  rw [readFields, hn]
  show (readValue nearest fuel cs' >>= _) = _
  rw [h]
  rfl

/-- A decimal is read as a number, unless it goes on. -/
lemma readValue_number (n : WrittenDecimal) (h : Follows rest) :
    readValue nearest (fuel + 1) (n.chars ++ rest) = .ok (nearest n.chars, rest) := by
  have scalar := readScalar_number n h
  obtain ⟨c, cs, e, mark⟩ := exists_chars n
  have plain : c ∉ ['"', '[', '\x7b'] := by
    intro mem
    have marked : ∀ d ∈ ['"', '[', '\x7b'], d ∈ marks := List.all_iff_forall_prop.1 (by decide)
    exact mark (marked c mem)
  rw [e, List.cons_append] at scalar ⊢
  rw [readValue_scalar plain, scalar]

/-- Each of the three words is read as what it stands for. -/
lemma readValue_word {word : String × Json} (h : word ∈ words) :
    readValue nearest (fuel + 1) (word.1.toList ++ rest) = .ok (word.2, rest) := by
  have scalar := readScalar_word h rest
  have plain : ∃ c cs, word.1.toList = c :: cs ∧ c ∉ ['"', '[', '\x7b'] := by
    simp only [words, List.mem_cons, List.not_mem_nil, or_false] at h
    rcases h with rfl | rfl | rfl
    all_goals exact ⟨_, _, rfl, by decide⟩
  obtain ⟨c, cs, e, mark⟩ := plain
  rw [e, List.cons_append] at scalar ⊢
  rw [readValue_scalar mark, scalar]

/-- A bracket with something behind it opens a list of items. -/
lemma readValue_items (h : ∃ c cs', cs = c :: cs' ∧ isSpace c = false ∧ c ≠ ']') :
    readValue nearest (fuel + 1) ('[' :: cs) = readItems nearest fuel [] cs := by
  obtain ⟨c, cs', rfl, space, bracket⟩ := h
  rw [readValue, skipSpace_cons space]
  split
  · next h => exact absurd (List.cons.inj h).1 bracket
  · rfl

/-- A brace with something behind it opens a list of fields. -/
lemma readValue_fields (h : ∃ c cs', cs = c :: cs' ∧ isSpace c = false ∧ c ≠ '\x7d') :
    readValue nearest (fuel + 1) ('\x7b' :: cs) = readFields nearest fuel [] cs := by
  obtain ⟨c, cs', rfl, space, brace⟩ := h
  rw [readValue, skipSpace_cons space]
  split
  · next h => exact absurd (List.cons.inj h).1 brace
  · rfl

end Steps

mutual

/-- Reading takes the text of a document off the front of what follows it. Twice the length of the text is
enough fuel: every item and every field costs one call for itself and one for its value. -/
theorem readValue_compact : (j : Json) → j.Canonical → ∀ fuel rest,
    2 * j.compact.toList.length ≤ fuel + 1 → Follows rest →
      readValue nearest (fuel + 1) (j.compact.toList ++ rest) = .ok (j.doubled, rest)
  | null, _ => fun _ _ _ _ => readValue_word (.head _)
  | boolean true, _ => fun _ _ _ _ => readValue_word (.tail _ (.head _))
  | boolean false, _ => fun _ _ _ _ => readValue_word (.tail _ (.tail _ (.head _)))
  | integer i, _ => by
    intro fuel rest _ follows
    obtain ⟨n, text, value⟩ := exists_integer i
    rw [text, value]
    exact readValue_number n follows
  | real x, h => by
    intro fuel rest _ follows
    cases h with
    | real canonical =>
      obtain ⟨n, text, value⟩ := exists_real canonical
      rw [text, value]
      exact readValue_number n follows
  | string s, _ => fun _ _ _ _ => by
    rw [compact]
    exact readValue_quoted s
  | array [], _ => fun _ _ _ _ => rfl
  | array (item :: items), h => by
    intro fuel rest bound _
    have canonical : ∀ j ∈ item :: items, j.Canonical := by
      cases h with
      | array canonical => exact canonical
    obtain ⟨c, cs, e, space, bracket, -⟩ := exists_compact (canonical item (.head _))
    obtain ⟨tail, start⟩ := exists_itemsText item items
    rw [compact_array, List.length_cons, List.length_append] at bound
    -- The brackets are in the text, so the bound leaves fuel for the items.
    obtain ⟨fuel, rfl⟩ := Nat.exists_eq_add_one_of_ne_zero (show fuel ≠ 0 by omega)
    rw [compact_array, List.cons_append, List.append_assoc, List.singleton_append, readValue_items]
    · exact readItems_compact (item :: items) (List.cons_ne_nil _ _) canonical fuel [] rest (by omega)
    · rw [start, e]
      exact ⟨c, _, rfl, space, bracket⟩
  | object [], _ => fun _ _ _ _ => rfl
  | object (field :: fields), h => by
    intro fuel rest bound _
    obtain ⟨distinct, canonical⟩ : ((field :: fields).map Prod.fst).Nodup ∧
        ∀ f ∈ field :: fields, f.2.Canonical := by
      cases h with
      | object distinct canonical => exact ⟨distinct, canonical⟩
    obtain ⟨tail, start⟩ := exists_fieldsText field fields
    rw [compact_object, List.length_cons, List.length_append] at bound
    obtain ⟨fuel, rfl⟩ := Nat.exists_eq_add_one_of_ne_zero (show fuel ≠ 0 by omega)
    rw [compact_object, List.cons_append, List.append_assoc, List.singleton_append, readValue_fields]
    -- No name comes twice, so no field replaces another.
    · rw [readFields_compact (field :: fields) (List.cons_ne_nil _ _) canonical fuel [] rest (by omega),
        List.reverse_nil, List.nil_append, ofEntries_eq (by rwa [names_doubledFields])]
      rfl
    · rw [start, toList_quoted]
      exact ⟨_, _, rfl, by decide⟩

/-- Behind its opening bracket the text of items is read back, with doubles for the integers in them. -/
theorem readItems_compact : (items : List Json) → items ≠ [] → (∀ item ∈ items, item.Canonical) →
    ∀ fuel taken tail, 2 * (itemsText items).length ≤ fuel →
      readItems nearest (fuel + 1) taken (itemsText items ++ ']' :: tail) =
        .ok (.array (taken.reverse ++ doubledItems items), tail)
  | [], h, _ => absurd rfl h
  | [item], _, h => by
    intro fuel taken tail bound
    have positive := length_compact (h item (.head _))
    rw [itemsText_singleton] at bound ⊢
    obtain ⟨fuel, rfl⟩ := Nat.exists_eq_add_one_of_ne_zero (show fuel ≠ 0 by omega)
    exact readItems_close taken (readValue_compact item (h item (.head _)) fuel _ bound
      (.cons _ (by decide)))
  | item :: item' :: items, _, h => by
    -- The comma pays for the call that reads the other items.
    intro fuel taken tail bound
    have positive := length_compact (h item (.head _))
    rw [itemsText_cons, List.length_append, List.length_cons] at bound
    obtain ⟨fuel, rfl⟩ := Nat.exists_eq_add_one_of_ne_zero (show fuel ≠ 0 by omega)
    have first := readValue_compact item (h item (.head _)) fuel
      (',' :: (itemsText (item' :: items) ++ ']' :: tail)) (by omega) (.cons _ (by decide))
    have others := readItems_compact (item' :: items) (List.cons_ne_nil _ _)
      (fun j hj => h j (.tail _ hj)) fuel (item.doubled :: taken) tail (by omega)
    rw [itemsText_cons, List.append_assoc, List.cons_append, readItems_comma taken first,
      skipSpace_itemsText (h item' (.tail _ (.head _))), others, List.reverse_cons, List.append_assoc]
    rfl

/-- Behind its opening brace the text of fields is read back, with doubles for the integers in them. -/
theorem readFields_compact : (fields : List (String × Json)) → fields ≠ [] →
    (∀ field ∈ fields, field.2.Canonical) → ∀ fuel taken tail, 2 * (fieldsText fields).length ≤ fuel →
      readFields nearest (fuel + 1) taken (fieldsText fields ++ '\x7d' :: tail) =
        .ok (ofEntries (taken.reverse ++ doubledFields fields), tail)
  | [], h, _ => absurd rfl h
  | [(name, value)], _, h => by
    intro fuel taken tail bound
    have canonical : value.Canonical := h (name, value) (.head _)
    rw [fieldsText_singleton] at bound ⊢
    rw [length_fieldText] at bound
    obtain ⟨fuel, rfl⟩ := Nat.exists_eq_add_one_of_ne_zero (show fuel ≠ 0 by omega)
    exact readFields_close taken (readName_fieldText canonical _)
      (readValue_compact value canonical fuel _ (by omega) (.cons _ (by decide)))
  | (name, value) :: field :: fields, _, h => by
    intro fuel taken tail bound
    have canonical : value.Canonical := h (name, value) (.head _)
    rw [fieldsText_cons, List.length_append, List.length_cons, length_fieldText] at bound
    obtain ⟨fuel, rfl⟩ := Nat.exists_eq_add_one_of_ne_zero (show fuel ≠ 0 by omega)
    have first := readValue_compact value canonical fuel
      (',' :: (fieldsText (field :: fields) ++ '\x7d' :: tail)) (by omega) (.cons _ (by decide))
    have others := readFields_compact (field :: fields) (List.cons_ne_nil _ _)
      (fun f hf => h f (.tail _ hf)) fuel ((name, value.doubled) :: taken) tail (by omega)
    rw [fieldsText_cons, List.append_assoc, List.cons_append,
      readFields_comma taken (readName_fieldText canonical _) first, skipSpace_fieldsText, others,
      List.reverse_cons, List.append_assoc]
    rfl

end

/-- The compact text of a document in canonical form is read as that document with its integers as
doubles. -/
theorem read_compact {j : Json} (h : j.Canonical) : read j.compact.toList = .ok j.doubled := by
  have nothing : Follows [] := nofun
  have value := readValue_compact j h (2 * j.compact.toList.length + 1) [] (by omega) nothing
  have spaces := skipSpace_compact h []
  rw [List.append_nil] at value spaces
  have plain : j.compact.toList.head? ≠ some '\ufeff' := by
    obtain ⟨c, cs, e, -, -, mark⟩ := exists_compact h
    rw [e]
    exact fun eq => mark (Option.some.inj eq)
  rw [read, readWith, if_neg plain, spaces]
  show (readValue nearest _ _ >>= _) = _
  rw [value]
  rfl

end Json

end WorkflowExpr
