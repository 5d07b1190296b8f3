import Briefing.Proofs.TomlNumbers
import Briefing.Proofs.TomlTexts
import Briefing.Toml.Writer

namespace Briefing.Toml

section values

inductive Scalar : Value → Prop
  | text (s : String) : Scalar (.text s)
  | integer {n : Int} : isInteger n = true → Scalar (.integer n)
  | float {x : Binary64} : x.negative = false → 0 < x.magnitude →
      x.magnitude < Binary64.infiniteMagnitude → Scalar (.float x)

inductive Readable : Value → Prop
  | scalar {v : Value} : Scalar v → Readable v
  | array {items : List Value} : (∀ v ∈ items, Scalar v) → Readable (.array items)

def opens (c : Char) : Bool := c == '"' || c == '\'' || c == '-' || c.isDigit

theorem ne_of_apart {p : Char → Bool} {c d : Char} (h : p c = true) (other : p d = false) :
    c ≠ d := by
  rintro rfl
  rw [h] at other
  cases other

theorem head_writeInteger (n : Int) :
    ∃ c t, writeInteger n = c :: t ∧ (c = '-' ∨ c.isDigit = true) := by
  obtain ⟨c, t, text, digit⟩ := (Json.digits_toDigits n.natAbs).head
  rw [writeInteger]
  split
  · exact ⟨'-', _, rfl, Or.inl rfl⟩
  · exact ⟨c, t, text, Or.inr digit⟩

theorem head_writeFloat {x : Binary64} (nonneg : x.negative = false) (pos : 0 < x.magnitude)
    (finite : x.magnitude < Binary64.infiniteMagnitude) :
    ∃ c t, writeFloat x = c :: t ∧ (c = '-' ∨ c.isDigit = true) := by
  obtain ⟨c, t, text, digit⟩ := (spread_shortest nonneg pos finite).front.head
  rw [writeFloat_eq nonneg pos finite, text]
  exact ⟨c, _, rfl, Or.inr digit⟩

theorem opens_of_numeral {c : Char} (h : c = '-' ∨ c.isDigit = true) : opens c = true := by
  rcases h with rfl | digit
  · rfl
  · simp [opens, digit]

theorem Scalar.head {v : Value} (h : Scalar v) : ∃ c t, v.write = c :: t ∧ opens c = true := by
  cases h with
  | text s =>
      rw [Value.write]
      rcases head?_writeText s.toList with double | single
      · obtain ⟨t, text⟩ := List.head?_eq_some_iff.mp double
        exact ⟨'"', t, text, rfl⟩
      · obtain ⟨t, text⟩ := List.head?_eq_some_iff.mp single
        exact ⟨'\'', t, text, rfl⟩
  | @integer n =>
      obtain ⟨c, t, text, numeral⟩ := head_writeInteger n
      exact ⟨c, t, by rw [Value.write, text], opens_of_numeral numeral⟩
  | float nonneg pos finite =>
      obtain ⟨c, t, text, numeral⟩ := head_writeFloat nonneg pos finite
      exact ⟨c, t, by rw [Value.write, text], opens_of_numeral numeral⟩

theorem readLine?_of_head {c : Char} (double : c ≠ '"') (single : c ≠ '\'') (s : List Char) :
    readLine? (c :: s) = none := by
  unfold readLine?
  split
  · rename_i same
    exact absurd (List.cons.inj same).1 double
  · rename_i same
    exact absurd (List.cons.inj same).1 single
  · rfl

theorem readText?_of_head {c : Char} (double : c ≠ '"') (single : c ≠ '\'') (s : List Char) :
    readText? (c :: s) = none := by
  rw [readText?_of_line, readLine?_of_head double single]
  · exact fun _ same => double (List.cons.inj same).1
  · exact fun _ same => single (List.cons.inj same).1

theorem readScalar_of_opens {c : Char} (h : opens c = true) (s : List Char) :
    readScalar (c :: s) =
      match readText? (c :: s) with
      | some (cs, rest) => some (.text (String.ofList cs), rest)
      | none => readNumber (c :: s) := by
  unfold readScalar
  split
  · rename_i same
    exact absurd (List.cons.inj same).1 (ne_of_apart h rfl)
  · rename_i same
    exact absurd (List.cons.inj same).1 (ne_of_apart h rfl)
  · rfl

theorem readScalar_number {v : Value} {t rest : List Char}
    (head : ∃ c s, t = c :: s ∧ (c = '-' ∨ c.isDigit = true))
    (read : readNumber (t ++ rest) = some (v, rest)) : readScalar (t ++ rest) = some (v, rest) := by
  obtain ⟨c, s, rfl, numeral⟩ := head
  have quotes : c ≠ '"' ∧ c ≠ '\'' := by
    constructor <;>
    · rintro rfl
      rcases numeral with same | digit
      · exact absurd same (by decide)
      · exact absurd digit (by decide)
  rw [List.cons_append] at read ⊢
  rw [readScalar_of_opens (opens_of_numeral numeral), readText?_of_head quotes.1 quotes.2]
  exact read

theorem readScalar_write {v : Value} (h : Scalar v) {rest : List Char} (ends : Ends rest) :
    readScalar (v.write ++ rest) = some (v, rest) := by
  obtain ⟨c, t, text, opened⟩ := h.head
  cases h with
  | text s =>
      have double : rest.head? ≠ some '"' := fun same => absurd (ends '"' same) (by decide)
      have single : rest.head? ≠ some '\'' := fun same => absurd (ends '\'' same) (by decide)
      have read := readText?_writeText s.toList double single
      rw [Value.write] at text ⊢
      rw [text, List.cons_append] at read ⊢
      rw [readScalar_of_opens opened, read]
      simp
  | @integer n fits =>
      rw [Value.write]
      exact readScalar_number (head_writeInteger n) (readNumber_integer fits ends)
  | float nonneg pos finite =>
      rw [Value.write]
      exact readScalar_number (head_writeFloat nonneg pos finite)
        (readNumber_float nonneg pos finite ends)

theorem readValue_scalar {c : Char} (h : opens c = true) (depth : Nat) (s : List Char) :
    readValue depth (c :: s) = readScalar (c :: s) := by
  cases depth with
  | zero => rfl
  | succ depth =>
      unfold readValue
      split
      · rename_i same
        exact absurd (List.cons.inj same).1 (ne_of_apart h rfl)
      · rename_i same
        exact absurd (List.cons.inj same).1 (ne_of_apart h rfl)
      · rfl

theorem skipFiller_space (s : List Char) : skipFiller false (' ' :: s) = skipFiller false s := by
  rw [skipFiller]
  · rfl
  · intro _ same
    exact absurd same (by decide)

theorem skipFiller_newline (s : List Char) : skipFiller false ('\n' :: s) = skipFiller false s := by
  rw [skipFiller]
  · rfl
  · intro _ same
    exact absurd same (by decide)

def isSolid (c : Char) : Bool :=
  !isSpace c && c != '\n' && c != '\r' && c != '#' && c != '\uFEFF'

theorem skipFiller_solid {c : Char} (solid : isSolid c = true) (s : List Char) :
    skipFiller false (c :: s) = c :: s := by
  simp only [isSolid, Bool.and_eq_true, Bool.not_eq_true', bne_iff_ne, ne_eq] at solid
  obtain ⟨⟨⟨⟨space, line⟩, feed⟩, note⟩, -⟩ := solid
  rw [skipFiller, if_neg line, if_neg Bool.false_ne_true, if_neg (by simp [space]), if_neg note]
  exact fun _ same => absurd same feed

theorem isSolid_of_apart {p : Char → Bool} {c : Char} (h : p c = true)
    (blank : ∀ d ∈ [' ', '\t', '\n', '\r', '#', '\uFEFF'], p d = false) : isSolid c = true := by
  have other : ∀ d ∈ [' ', '\t', '\n', '\r', '#', '\uFEFF'], c ≠ d :=
    fun d hd => ne_of_apart h (blank d hd)
  simp only [List.mem_cons, List.not_mem_nil, or_false, forall_eq_or_imp, forall_eq] at other
  simp [isSolid, isSpace, other]

theorem isSolid_of_opens {c : Char} (h : opens c = true) : isSolid c = true :=
  isSolid_of_apart h (by simp [opens])

theorem writeValues_eq (items : List Value) : writeValues items = items.map Value.write := by
  induction items with
  | nil => rfl
  | cons v vs ih => rw [writeValues, ih, List.map_cons]

section arrays

variable {read : List Char → Option (Value × List Char)}

theorem readItems_item {s t more : List Char} {c : Char} {v : Value} (open_ : opens c = true)
    (front : skipFiller false s = c :: t) (item : read (c :: t) = some (v, more)) (n : Nat) :
    readItems read (n + 1) s =
      match skipFiller false more with
      | ',' :: rest => (readItems read n rest).map fun (vs, rest) => (v :: vs, rest)
      | ']' :: rest => some ([v], rest)
      | _ => none := by
  rw [readItems, front]
  split
  · rename_i same
    exact absurd (List.cons.inj same).1 (ne_of_apart open_ rfl)
  · rw [item]
    rfl

def itemLines (items : List (List Char)) : List Char :=
  '\n' :: items.flatMap fun item => "    ".toList ++ item ++ [',', '\n']

theorem itemLines_cons (item : List Char) (items : List (List Char)) :
    itemLines (item :: items) = "\n    ".toList ++ item ++ ',' :: itemLines items := by
  simp [itemLines]

theorem length_le_itemLines (items : List (List Char)) :
    items.length ≤ (itemLines items).length := by
  induction items with
  | nil => exact Nat.zero_le _
  | cons item items ih =>
      rw [itemLines_cons, List.length_append, List.length_cons, List.length_cons]
      omega

theorem skipFiller_margin {c : Char} (solid : isSolid c = true) (s : List Char) :
    skipFiller false ("\n    ".toList ++ c :: s) = c :: s := by
  change skipFiller false ('\n' :: ' ' :: ' ' :: ' ' :: ' ' :: c :: s) = c :: s
  simp only [skipFiller_newline, skipFiller_space, skipFiller_solid solid]

theorem readItems_lines {items : List Value}
    (reads : ∀ v ∈ items, ∀ rest, Ends rest → read (v.write ++ rest) = some (v, rest))
    (heads : ∀ v ∈ items, ∃ c t, v.write = c :: t ∧ opens c = true) {fuel : Nat}
    (enough : items.length < fuel) (rest : List Char) :
    readItems read fuel (itemLines (items.map Value.write) ++ ']' :: rest) = some (items, rest) := by
  obtain ⟨n, rfl⟩ := Nat.exists_eq_add_one_of_ne_zero (Nat.ne_zero_of_lt enough)
  induction items generalizing n with
  | nil => rfl
  | cons v vs ih =>
      obtain ⟨first, reads⟩ := List.forall_mem_cons.mp reads
      obtain ⟨⟨c, t, text, opened⟩, heads⟩ := List.forall_mem_cons.mp heads
      have enough := Nat.lt_of_succ_lt_succ enough
      have item := first (',' :: (itemLines (vs.map Value.write) ++ ']' :: rest)) (by simp [Ends])
      rw [List.map_cons, itemLines_cons, List.append_assoc, List.append_assoc, List.cons_append]
      obtain ⟨m, rfl⟩ := Nat.exists_eq_add_one_of_ne_zero (Nat.ne_zero_of_lt enough)
      rw [text, List.cons_append] at item ⊢
      rw [readItems_item opened (skipFiller_margin (isSolid_of_opens opened) _) item,
        skipFiller_solid rfl]
      simp only [ih reads heads m enough, Option.map_some]

theorem readArray_write {items : List Value}
    (reads : ∀ v ∈ items, ∀ rest, Ends rest → read (v.write ++ rest) = some (v, rest))
    (heads : ∀ v ∈ items, ∃ c t, v.write = c :: t ∧ opens c = true) (rest : List Char) :
    ∃ body, (Value.array items).write ++ rest = '[' :: body ∧
      readArray read body = some (.array items, rest) := by
  rw [Value.write, writeValues_eq]
  match items with
  | [] => exact ⟨']' :: rest, rfl, rfl⟩
  | [v] =>
      obtain ⟨c, t, text, opened⟩ := heads v List.mem_cons_self
      have item := reads v List.mem_cons_self (']' :: rest) (by simp [Ends])
      refine ⟨v.write ++ ']' :: rest, by simp [writeArray], ?_⟩
      rw [text, List.cons_append] at item ⊢
      rw [readArray, readItems_item opened (skipFiller_solid (isSolid_of_opens opened) _) item,
        skipFiller_solid rfl]
      rfl
  | v :: w :: vs =>
      refine ⟨itemLines ((v :: w :: vs).map Value.write) ++ ']' :: rest, ?_, ?_⟩
      · simp [writeArray, itemLines]
      · have enough := length_le_itemLines ((v :: w :: vs).map Value.write)
        rw [List.length_map] at enough
        rw [readArray, readItems_lines reads heads ?_ rest]
        · rfl
        · rw [List.length_append]
          omega

end arrays

theorem Scalar.readValue_write {v : Value} (h : Scalar v) (depth : Nat) {rest : List Char}
    (ends : Ends rest) : readValue depth (v.write ++ rest) = some (v, rest) := by
  obtain ⟨c, t, text, opened⟩ := h.head
  have read := readScalar_write h ends
  rw [text, List.cons_append] at read ⊢
  rw [readValue_scalar opened, read]

theorem readValue_write {v : Value} (h : Readable v) (depth : Nat) {rest : List Char}
    (ends : Ends rest) : readValue (depth + 1) (v.write ++ rest) = some (v, rest) := by
  cases h with
  | scalar h => exact h.readValue_write (depth + 1) ends
  | @array items scalars =>
      have reads : ∀ v ∈ items, ∀ rest, Ends rest →
          readValue depth (v.write ++ rest) = some (v, rest) :=
        fun v hv _ ends => (scalars v hv).readValue_write depth ends
      obtain ⟨body, text, read⟩ := readArray_write reads (fun v hv => (scalars v hv).head) rest
      rw [text, readValue, read]

end values

section keys

structure Bare (key : String) : Prop where
  nonempty : key ≠ ""
  chars : key.toList.all isBareKeyChar = true

instance (key : String) : Decidable (Bare key) :=
  decidable_of_iff (key ≠ "" ∧ key.toList.all isBareKeyChar = true)
    ⟨fun h => ⟨h.1, h.2⟩, fun h => ⟨h.nonempty, h.chars⟩⟩

theorem Bare.head {key : String} (h : Bare key) :
    ∃ c t, key.toList = c :: t ∧ isBareKeyChar c = true := by
  obtain ⟨c, t, text⟩ := List.exists_cons_of_ne_nil (mt String.toList_eq_nil_iff.mp h.nonempty)
  have chars := h.chars
  rw [text, List.all_cons, Bool.and_eq_true] at chars
  exact ⟨c, t, text, chars.1⟩

theorem writeKey_bare {key : String} (h : Bare key) : writeKey key = key.toList := by
  rw [writeKey, if_pos ⟨h.nonempty, h.chars⟩]

theorem readKey_bare {key : String} (h : Bare key) {rest : List Char}
    (apart : ∀ c ∈ rest.head?, isBareKeyChar c = false) :
    readKey (key.toList ++ rest) = some (key, rest) := by
  obtain ⟨c, t, text, bare⟩ := h.head
  have line : readLine? (key.toList ++ rest) = none := by
    rw [text]
    exact readLine?_of_head (ne_of_apart bare rfl) (ne_of_apart bare rfl) _
  have stop : rest.takeWhile isBareKeyChar = [] := by
    cases rest with
    | nil => rfl
    | cons d rest => exact List.takeWhile_cons_of_neg (by simp [apart d rfl])
  have read : (key.toList ++ rest).takeWhile isBareKeyChar = key.toList := by
    rw [List.takeWhile_append_of_pos (List.all_eq_true.mp h.chars), stop, List.append_nil]
  rw [readKey, line]
  simp only [read]
  rw [if_neg (by simp [text]), List.drop_left, String.ofList_toList]

theorem skipSpaces_solid {c : Char} (solid : isSolid c = true) (s : List Char) :
    skipSpaces (c :: s) = c :: s := by
  simp only [isSolid, Bool.and_eq_true, Bool.not_eq_true'] at solid
  rw [skipSpaces, List.dropWhile_cons_of_neg (by simp [solid])]

theorem skipSpaces_bare {key : String} (h : Bare key) (s : List Char) :
    skipSpaces (key.toList ++ s) = key.toList ++ s := by
  obtain ⟨c, t, text, bare⟩ := h.head
  rw [text, List.cons_append, skipSpaces_solid (isSolid_of_apart bare (by simp; decide))]

theorem writeKeys_singleton (key : String) : writeKeys [key] = writeKey key := by simp [writeKeys]

theorem writeKeys_cons_cons (key next : String) (keys : List String) :
    writeKeys (key :: next :: keys) = writeKey key ++ '.' :: writeKeys (next :: keys) := by
  simp [writeKeys]

theorem readKeys_write {keys : List String} (bare : ∀ key ∈ keys, Bare key) (nonempty : keys ≠ [])
    {n : Nat} (few : keys.length ≤ n) {rest : List Char}
    (apart : ∀ c ∈ rest.head?, isBareKeyChar c = false)
    (last : (skipSpaces rest).head? ≠ some '.') :
    readKeys n (writeKeys keys ++ rest) = some (keys, skipSpaces rest) := by
  induction keys generalizing n with
  | nil => exact absurd rfl nonempty
  | cons key keys ih =>
      obtain ⟨bareKey, bare⟩ := List.forall_mem_cons.mp bare
      obtain ⟨m, rfl⟩ := Nat.exists_eq_add_one_of_ne_zero (Nat.ne_zero_of_lt few)
      cases keys with
      | nil =>
          rw [writeKeys_singleton, writeKey_bare bareKey, readKeys, skipSpaces_bare bareKey,
            readKey_bare bareKey apart]
          simp only
          split
          · rename_i same
            exact absurd (congrArg List.head? same) last
          · rfl
      | cons next keys =>
          rw [writeKeys_cons_cons, writeKey_bare bareKey, List.append_assoc, readKeys,
            skipSpaces_bare bareKey, readKey_bare bareKey (by simp; decide), List.cons_append]
          simp only
          rw [skipSpaces_solid rfl]
          simp only [ih bare (List.cons_ne_nil _ _) (Nat.le_of_succ_le_succ few), Option.map_some]

structure Path (keys : List String) : Prop where
  bare : ∀ key ∈ keys, Bare key
  nonempty : keys ≠ []
  few : keys.length ≤ maxDepth

instance (keys : List String) : Decidable (Path keys) :=
  decidable_of_iff ((∀ key ∈ keys, Bare key) ∧ keys ≠ [] ∧ keys.length ≤ maxDepth)
    ⟨fun h => ⟨h.1, h.2.1, h.2.2⟩, fun h => ⟨h.bare, h.nonempty, h.few⟩⟩

theorem Path.head {keys : List String} (h : Path keys) :
    ∃ c t, writeKeys keys = c :: t ∧ isBareKeyChar c = true := by
  obtain ⟨bare, nonempty, -⟩ := h
  cases keys with
  | nil => exact absurd rfl nonempty
  | cons key keys =>
      have bareKey := bare key List.mem_cons_self
      obtain ⟨c, t, text, first⟩ := bareKey.head
      cases keys with
      | nil => exact ⟨c, t, by rw [writeKeys_singleton, writeKey_bare bareKey, text], first⟩
      | cons next keys =>
          refine ⟨c, t ++ '.' :: writeKeys (next :: keys), ?_, first⟩
          rw [writeKeys_cons_cons, writeKey_bare bareKey, text, List.cons_append]

theorem readKeys_path {keys : List String} (h : Path keys) (rest : List Char)
    (apart : ∀ c ∈ rest.head?, isBareKeyChar c = false)
    (last : (skipSpaces rest).head? ≠ some '.') :
    readKeys maxDepth (writeKeys keys ++ rest) = some (keys, skipSpaces rest) :=
  readKeys_write h.bare h.nonempty h.few apart last

end keys

section statements

inductive Plain : Statement → Prop
  | table {path : List String} : Path path → Plain (.table path)
  | element {path : List String} : Path path → Plain (.element path)
  | assign {keys : List String} {v : Value} : Path keys → Readable v → Plain (.assign keys v)

theorem readKeys_bracket {path : List String} (h : Path path) (rest : List Char) :
    readKeys maxDepth (writeKeys path ++ ']' :: rest) = some (path, ']' :: rest) := by
  have solid : skipSpaces (']' :: rest) = ']' :: rest := skipSpaces_solid rfl rest
  have read := readKeys_path h (']' :: rest) (by simp; decide) (by rw [solid]; simp)
  rwa [solid] at read

theorem Readable.head {v : Value} (h : Readable v) :
    ∃ c t, v.write = c :: t ∧ isSolid c = true := by
  cases h with
  | scalar h =>
      obtain ⟨c, t, text, opened⟩ := h.head
      exact ⟨c, t, text, isSolid_of_opens opened⟩
  | @array items =>
      rw [Value.write]
      unfold writeArray
      split
      · exact ⟨'[', _, rfl, rfl⟩
      · exact ⟨'[', _, rfl, rfl⟩
      · exact ⟨'[', _, rfl, rfl⟩

theorem readPair_write {keys : List String} {v : Value} (path : Path keys) (h : Readable v)
    (depth : Nat) (rest : List Char) :
    readPair (readValue (depth + 1)) (writeKeys keys ++ " = ".toList ++ v.write ++ '\n' :: rest) =
      some ((keys, v), '\n' :: rest) := by
  obtain ⟨c, t, text, solid⟩ := h.head
  have ends : Ends ('\n' :: rest) := by simp [Ends]
  have read := readValue_write h depth ends
  have spaces (s : List Char) : skipSpaces (" = ".toList ++ s) = '=' :: ' ' :: s := rfl
  have keyed := readKeys_path path (" = ".toList ++ (v.write ++ '\n' :: rest))
    (by simp; decide) (by rw [spaces]; simp)
  have front : skipSpaces (' ' :: (v.write ++ '\n' :: rest)) = v.write ++ '\n' :: rest := by
    rw [text]
    exact skipSpaces_solid solid (t ++ '\n' :: rest)
  rw [List.append_assoc, List.append_assoc, readPair, keyed, spaces]
  simp only [Option.bind_eq_bind, Option.bind_some, Text.expect, if_true, front, read]

theorem readStatement_write {st : Statement} (h : Plain st) (rest : List Char) :
    readStatement (st.write ++ rest) = some (st, '\n' :: rest) := by
  cases h with
  | @table path plain =>
      obtain ⟨c, t, head, bare⟩ := plain.head
      have text : (Statement.table path).write ++ rest =
          '[' :: (writeKeys path ++ ']' :: '\n' :: rest) := by
        simp [Statement.write]
      rw [text, readStatement, readKeys_bracket plain]
      · rfl
      · intro s same
        rw [head, List.cons_append] at same
        exact ne_of_apart bare rfl (List.cons.inj same).1
  | @element path plain =>
      have text : (Statement.element path).write ++ rest =
          '[' :: '[' :: (writeKeys path ++ ']' :: ']' :: '\n' :: rest) := by
        simp [Statement.write]
      rw [text, readStatement, readKeys_bracket plain]
      rfl
  | @assign keys v plain readable =>
      obtain ⟨c, t, text, bare⟩ := plain.head
      have read := readPair_write plain readable 78 rest
      have line : (Statement.assign keys v).write ++ rest =
          writeKeys keys ++ " = ".toList ++ v.write ++ '\n' :: rest := by
        simp [Statement.write]
      rw [line, readStatement, maxDepth, read]
      · rfl
      all_goals
        intro s same
        rw [text] at same
        exact ne_of_apart bare rfl (List.cons.inj same).1

theorem readLineEnd_solid {c : Char} (solid : isSolid c = true) (s : List Char) :
    readLineEnd (c :: s) = none := by
  have shown := solid
  simp only [isSolid, Bool.and_eq_true, bne_iff_ne, ne_eq] at shown
  obtain ⟨⟨⟨⟨-, line⟩, feed⟩, note⟩, -⟩ := shown
  rw [readLineEnd, skipSpaces_solid solid]
  simp only [List.head?_cons, Option.some.injEq, if_neg note]
  split
  · rename_i same
    cases same
  · rename_i same
    exact absurd (List.cons.inj same).1 line
  · rename_i same
    exact absurd (List.cons.inj same).1 feed
  · rfl

theorem Plain.head {st : Statement} (h : Plain st) :
    ∃ c t, st.write = c :: t ∧ isSolid c = true := by
  cases h with
  | table => exact ⟨'[', _, rfl, rfl⟩
  | element => exact ⟨'[', _, rfl, rfl⟩
  | @assign keys v path =>
      obtain ⟨c, t, text, bare⟩ := path.head
      exact ⟨c, _, by rw [Statement.write, text]; rfl,
        isSolid_of_apart bare (by simp; decide)⟩

theorem readStatements_newline (n : Nat) (s : List Char) :
    readStatements (n + 1) ('\n' :: s) = readStatements n s := rfl

theorem readStatements_line {st : Statement} (h : Plain st) (n : Nat) (s : List Char) :
    readStatements (n + 1) (st.write ++ s) = (readStatements n s).map (st :: ·) := by
  obtain ⟨c, t, text, solid⟩ := h.head
  have read := readStatement_write h s
  rw [text, List.cons_append] at read ⊢
  have line : readLineEnd ('\n' :: s) = some s := rfl
  rw [readStatements, skipSpaces_solid solid, if_neg (List.cons_ne_nil _ _), readLineEnd_solid solid]
  simp only [read, Option.bind_some, line, Option.map_some]

theorem writeStatements_cons (st : Statement) (sts : List Statement) :
    writeStatements (st :: sts) =
      (if st.isHeader then ['\n'] else []) ++ (st.write ++ writeStatements sts) := by
  rw [writeStatements, List.flatMap_cons, List.append_assoc]
  rfl

theorem readStatements_write {sts : List Statement} (plain : ∀ st ∈ sts, Plain st) {fuel : Nat}
    (enough : (writeStatements sts).length < fuel) :
    readStatements fuel (writeStatements sts) = .ok sts := by
  obtain ⟨n, rfl⟩ := Nat.exists_eq_add_one_of_ne_zero (Nat.ne_zero_of_lt enough)
  -- a header takes two steps, the first of them for the empty line before it
  induction sts generalizing n with
  | nil => rfl
  | cons st sts ih =>
      obtain ⟨first, plain⟩ := List.forall_mem_cons.mp plain
      obtain ⟨c, t, text, -⟩ := first.head
      have line (m : Nat) (enough : (st.write ++ writeStatements sts).length < m + 1) :
          readStatements (m + 1) (st.write ++ writeStatements sts) = .ok (st :: sts) := by
        rw [text, List.cons_append, List.length_cons, List.length_append] at enough
        have enough := Nat.lt_of_succ_lt_succ enough
        obtain ⟨k, rfl⟩ := Nat.exists_eq_add_one_of_ne_zero (Nat.ne_zero_of_lt enough)
        rw [readStatements_line first, ih plain k (by omega)]
        rfl
      rw [writeStatements_cons] at enough ⊢
      split at enough
      · rename_i header
        rw [List.length_append, List.length_singleton] at enough
        obtain ⟨k, rfl⟩ := Nat.exists_eq_add_one_of_ne_zero (n := n) (by omega)
        rw [if_pos header, List.singleton_append, readStatements_newline]
        exact line k (by omega)
      · rename_i header
        rw [if_neg header]
        exact line n enough

theorem dropMark_solid {c : Char} (solid : isSolid c = true) (s : List Char) :
    dropMark (c :: s) = c :: s := by
  unfold dropMark
  split
  · rename_i same
    rw [(List.cons.inj same).1] at solid
    exact absurd solid (by decide)
  · rfl

theorem dropMark_write {sts : List Statement} (plain : ∀ st ∈ sts, Plain st) :
    dropMark (writeStatements sts) = writeStatements sts := by
  cases sts with
  | nil => rfl
  | cons st sts =>
      rw [writeStatements_cons]
      split
      · rfl
      · obtain ⟨c, t, text, solid⟩ := (plain st List.mem_cons_self).head
        rw [text]
        exact dropMark_solid solid (t ++ writeStatements sts)

theorem readDocument_write {sts : List Statement} (plain : ∀ st ∈ sts, Plain st) :
    readDocument (String.ofList (writeStatements sts)) = .ok sts := by
  rw [readDocument, String.toList_ofList]
  simp only [dropMark_write plain]
  rw [readStatements_write plain (Nat.lt_succ_self _)]

end statements

end Briefing.Toml
