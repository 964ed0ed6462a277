import FeatureRunner.Proofs.Json.Scalars

/-!
# Reading lists and records back

A text is read as a value or refused as too deep, whatever comes after it as a part of a text.  What
the written parts of a list or record are read as decides what the whole is read as.
-/

namespace FeatureRunner

namespace Json

variable {α β γ : Type} {room level : Nat} {text rest : Text}

/-- A text begins with a character that is neither a space nor closes a list or record. -/
def BeginsPart (text : Text) : Prop :=
  ∃ c tail, text = c :: tail ∧ isSpace c = false ∧ c ≠ ']' ∧ c ≠ '\x7d'

theorem BeginsPart.append (begins : BeginsPart text) (rest : Text) : BeginsPart (text ++ rest) := by
  obtain ⟨c, tail, rfl, visible⟩ := begins
  exact ⟨c, tail ++ rest, rfl, visible⟩

theorem skipSpaces_of_begins (begins : BeginsPart text) : skipSpaces text = text := by
  obtain ⟨c, tail, rfl, visible, -⟩ := begins
  rw [skipSpaces, List.dropWhile_cons_of_neg (by simp [visible])]

theorem skipSpaces_newline (level : Nat) (text : Text) :
    skipSpaces (newline level ++ text) = skipSpaces text := by
  refine List.dropWhile_append_of_pos fun c member => ?_
  rcases List.mem_cons.mp member with rfl | later
  · rfl
  · rw [List.eq_of_mem_replicate later]
    rfl

/-- What follows a part of a list or record: the later parts, and the closing character. -/
def afterPart (closing : Char) (level : Nat) : List Text → Text
  | [] => newline level ++ [closing]
  | part :: parts => ',' :: newline (level + 1) ++ (part ++ afterPart closing level parts)

theorem endsPart_afterPart (closing : Char) (level : Nat) (parts : List Text) (rest : Text) :
    EndsPart (afterPart closing level parts ++ rest) := by
  intro c first
  cases parts with
  | nil =>
      obtain rfl : '\n' = c := Option.some_inj.mp first
      exact .inr rfl
  | cons part parts =>
      obtain rfl : ',' = c := Option.some_inj.mp first
      exact .inl rfl

theorem bracketed_cons (opening closing : Char) (level : Nat) (part : Text) (parts : List Text) :
    bracketed opening closing level (part :: parts) =
      opening :: newline (level + 1) ++ (part ++ afterPart closing level parts) := by
  have joined : Text.join (',' :: newline (level + 1)) (part :: parts) ++ newline level ++
      [closing] = part ++ afterPart closing level parts := by
    induction parts generalizing part with
    | nil => rw [Text.join, afterPart, List.append_assoc]
    | cons next parts ih => rw [Text.join, afterPart, ← ih next]; simp only [List.append_assoc]
  rw [← joined, bracketed]
  · simp only [List.append_assoc]
  · exact List.cons_ne_nil _ _

/-- A value is found ahead of the rest of a text; or, if there is none, the text is refused because
it opens too many lists and records. -/
inductive Finds : Except JsonFault (β × Text) → Option β → Text → Prop
  | value (value : β) (rest : Text) : Finds (.ok (value, rest)) (some value) rest
  | tooDeep (nest : JsonNest) (rest : Text) : Finds (.error (.tooDeep nest)) none rest

theorem Finds.map {found : Except JsonFault (β × Text)} {value? : Option β}
    (finds : Finds found value? rest) (change : β → γ) :
    Finds (found.map fun found => (change found.1, found.2)) (value?.map change) rest := by
  cases finds with
  | value value => exact .value (change value) rest
  | tooDeep nest => exact .tooDeep nest rest

/-- A text is read as a value or refused, whatever it is followed by as a part. -/
structure ReadAs (room : Nat) (text : Text) (value? : Option Value) : Prop where
  begins : BeginsPart text
  finds : ∀ (fuel : Nat) (rest : Text), EndsPart rest → 2 * (text ++ rest).length ≤ fuel →
    Finds (readValue fuel room (text ++ rest)) value? rest

theorem readAs_of_finds {value? : Option Value} (begins : BeginsPart text)
    (finds : ∀ (fuel : Nat) (rest : Text), EndsPart rest → 2 * (text ++ rest).length ≤ fuel + 1 →
      Finds (readValue (fuel + 1) room (text ++ rest)) value? rest) :
    ReadAs room text value? := by
  refine ⟨begins, fun fuel rest ends enough => ?_⟩
  have some : 0 < text.length := by
    obtain ⟨c, tail, rfl, -⟩ := begins
    exact Nat.succ_pos _
  obtain ⟨fuel, rfl⟩ : ∃ less, fuel = less + 1 :=
    ⟨fuel - 1, by rw [List.length_append] at enough; omega⟩
  exact finds fuel rest ends enough

theorem readAs_null : ReadAs room "null".toList (some .null) :=
  readAs_of_finds ⟨_, _, rfl, rfl, by decide, by decide⟩ fun _ rest _ _ => .value _ rest

theorem readAs_bool (truth : Bool) (level : Nat) :
    ReadAs room (writeAt level (.bool truth)) (some (.bool truth)) := by
  cases truth <;>
    exact readAs_of_finds ⟨_, _, rfl, rfl, by decide, by decide⟩ fun _ rest _ _ => .value _ rest

theorem readAs_string (content : Text) :
    ReadAs room (writtenString content) (some (.text content)) := by
  refine readAs_of_finds ⟨_, _, rfl, rfl, by decide, by decide⟩ fun fuel rest ends enough => ?_
  simp only [writtenString, List.cons_append, List.length_cons, List.append_assoc,
    List.length_append] at enough ⊢
  rw [readValue, List.nil_append, readString_written (by omega)]
  exact .value _ rest

section Numbers

variable {c : Char} (digit : c.isDigit = true)

include digit

theorem ne_of_isDigit {d : Char} (noDigit : d.isDigit = false) : c ≠ d := by
  rintro rfl
  simp [noDigit] at digit

theorem beginsPart_of_isDigit (tail : Text) : BeginsPart (c :: tail) := by
  have other {d : Char} (noDigit : d.isDigit = false) : c ≠ d := ne_of_isDigit digit noDigit
  exact ⟨c, tail, rfl, by simp [isSpace, other], other rfl, other rfl⟩

theorem readValue_of_isDigit (fuel room : Nat) (tail : Text) :
    readValue (fuel + 1) room (c :: tail) = readNumber false (c :: tail) := by
  have other {d : Char} (noDigit : d.isDigit = false) : c ≠ d := ne_of_isDigit digit noDigit
  rw [readValue]
  all_goals
    intro rest same
    exact other rfl (List.cons.inj same).1

theorem readValue_of_minus (fuel room : Nat) (tail : Text) :
    readValue (fuel + 1) room ('-' :: c :: tail) = readNumber true (c :: tail) := by
  rw [readValue]
  intro rest same
  exact ne_of_isDigit digit rfl (List.cons.inj same).1

end Numbers

theorem readAs_int {number : Int} (writable : isWritable number = true) :
    ReadAs room (Text.ofInt number) (some (.int number)) := by
  have short := isWritable_iff.mp writable
  have reads (negative : Bool) {rest : Text} (ends : EndsPart rest) :=
    readNumber_ofNat short negative ends
  cases numeral : Text.ofNat number.natAbs with
  | nil => exact absurd numeral Nat.toDigits_ne_nil
  | cons first later =>
      have digit : first.isDigit = true :=
        Text.isDigit_of_mem_ofNat (numeral ▸ List.mem_cons_self)
      unfold Text.ofInt
      rw [numeral]
      rw [numeral] at reads
      split
      · next negative =>
        refine readAs_of_finds ⟨_, _, rfl, rfl, by decide, by decide⟩ fun fuel rest ends _ => ?_
        have value : -(number.natAbs : Int) = number := by omega
        have found := reads true ends
        simp only [if_true, value] at found
        rw [List.cons_append, List.cons_append, readValue_of_minus digit, ← List.cons_append, found]
        exact .value _ rest
      · next positive =>
        refine readAs_of_finds (beginsPart_of_isDigit digit later) fun fuel rest ends _ => ?_
        have value : (number.natAbs : Int) = number := by omega
        have found := reads false ends
        simp only [Bool.false_eq_true, if_false, value] at found
        rw [List.cons_append, readValue_of_isDigit digit, ← List.cons_append, found]
        exact .value _ rest

section Parts

variable {readParts : Nat → Text → Except JsonFault (List β × Text)} {closing : Char}

/-- A reader of several parts takes a text as one of them, whether it is the last one or the reader
goes on after a comma. -/
structure ReadsPart (readParts : Nat → Text → Except JsonFault (List β × Text)) (closing : Char)
    (text : Text) (part? : Option β) : Prop where
  begins : BeginsPart text
  last : ∀ {fuel : Nat} {rest after : Text}, EndsPart rest → 2 * (text ++ rest).length ≤ fuel →
    skipSpaces rest = closing :: after →
      Finds (readParts (fuel + 1) (text ++ rest)) (part?.map ([·])) after
  next : ∀ {fuel : Nat} {rest later after : Text} {others? : Option (List β)}, EndsPart rest →
    2 * (text ++ rest).length ≤ fuel → skipSpaces rest = ',' :: later →
      Finds (readParts fuel (skipSpaces later)) others? after →
        Finds (readParts (fuel + 1) (text ++ rest))
          (part?.bind fun part => others?.map (part :: ·)) after

theorem finds_parts {text : α → Text} {part? : α → Option β} (visible : isSpace closing = false)
    {first : α} {parts : List α}
    (reads : ∀ part ∈ first :: parts, ReadsPart readParts closing (text part) (part? part))
    {fuel : Nat}
    (enough : 2 * (text first ++ (afterPart closing level (parts.map text) ++ rest)).length <
      fuel) :
    Finds (readParts fuel (text first ++ (afterPart closing level (parts.map text) ++ rest)))
      ((first :: parts).mapM part?) rest := by
  induction parts generalizing first fuel with
  | nil =>
      obtain ⟨fuel, rfl⟩ : ∃ less, fuel = less + 1 := ⟨fuel - 1, by omega⟩
      have closes : skipSpaces (afterPart closing level [] ++ rest) = closing :: rest := by
        rw [afterPart, List.append_assoc, skipSpaces_newline, skipSpaces, List.singleton_append,
          List.dropWhile_cons_of_neg (by simp [visible])]
      have found := (reads first List.mem_cons_self).last (endsPart_afterPart closing level _ rest)
        (Nat.le_of_lt_succ enough) closes
      simpa [Option.map_eq_bind] using found
  | cons next parts ih =>
      obtain ⟨fuel, rfl⟩ : ∃ less, fuel = less + 1 := ⟨fuel - 1, by omega⟩
      have readsLater := (List.forall_mem_cons.mp reads).2
      have begins := (readsLater next List.mem_cons_self).begins.append
        (afterPart closing level (parts.map text) ++ rest)
      have shorter : 2 * (text next ++ (afterPart closing level (parts.map text) ++ rest)).length <
          fuel := by
        simp only [List.map_cons, afterPart, List.length_append, List.length_cons] at enough ⊢
        omega
      have there := ih readsLater shorter
      rw [← skipSpaces_of_begins begins, ← skipSpaces_newline (level + 1)] at there
      have goesOn : skipSpaces (afterPart closing level ((next :: parts).map text) ++ rest) =
          ',' :: (newline (level + 1) ++
            (text next ++ (afterPart closing level (parts.map text) ++ rest))) := by
        rw [List.map_cons, afterPart]
        simp only [List.cons_append, List.append_assoc]
        rfl
      have found := (reads first List.mem_cons_self).next (endsPart_afterPart closing level _ rest)
        (Nat.le_of_lt_succ enough) goesOn there
      rw [List.mapM_cons]
      simpa [Option.map_eq_bind] using found

end Parts

variable {value? : Option Value}

theorem ReadAs.item (reads : ReadAs room text value?) :
    ReadsPart (readItems · room ·) ']' text value? where
  begins := reads.begins
  last {fuel rest after} ends enough closes := by
    have here := reads.finds fuel rest ends enough
    simp only [readItems]
    generalize readValue fuel room (text ++ rest) = found at here
    cases here with
    | value value => simpa only [closes] using .value [value] after
    | tooDeep nest => exact .tooDeep nest after
  next {fuel rest later after others?} ends enough goesOn there := by
    have here := reads.finds fuel rest ends enough
    simp only [readItems]
    generalize readValue fuel room (text ++ rest) = found at here
    cases here with
    | value value => simpa only [goesOn, Option.bind_some] using there.map (value :: ·)
    | tooDeep nest => exact .tooDeep nest after

theorem length_le_writtenField (key text rest : Text) :
    (text ++ rest).length ≤ (writtenField (key, text) ++ rest).length := by
  simp only [writtenField, List.length_append]
  omega

/-- The key of a field is read up to its colon. -/
theorem exists_readString_writtenField {key : Text} {fuel : Nat}
    (enough : 2 * (writtenField (key, text) ++ rest).length ≤ fuel) :
    ∃ unread, writtenField (key, text) ++ rest = '"' :: unread ∧
      readString fuel unread = some (key, ':' :: ' ' :: (text ++ rest)) := by
  have opened : writtenField (key, text) ++ rest =
      '"' :: (key.flatMap writtenChar ++ '"' :: ':' :: ' ' :: (text ++ rest)) := by
    simp [writtenField, writtenString]
  refine ⟨_, opened, readString_written ?_ _⟩
  rw [opened, List.length_cons, List.length_append] at enough
  omega

theorem skipSpaces_colon (unread : Text) : skipSpaces (':' :: unread) = ':' :: unread := rfl

theorem skipSpaces_space (text : Text) : skipSpaces (' ' :: text) = skipSpaces text := rfl

theorem ReadAs.field (reads : ReadAs room text value?) (key : Text) :
    ReadsPart (readFields · room ·) '\x7d' (writtenField (key, text))
      (value?.map (Prod.mk key)) where
  begins := ⟨_, _, rfl, rfl, by decide, by decide⟩
  last {fuel rest after} ends enough closes := by
    have shorter := length_le_writtenField key text rest
    have here := reads.finds fuel rest ends (by omega)
    obtain ⟨unread, opened, keyRead⟩ := exists_readString_writtenField enough
    simp only [opened, readFields, keyRead, skipSpaces_colon, skipSpaces_space,
      skipSpaces_of_begins (reads.begins.append rest)]
    generalize readValue fuel room (text ++ rest) = found at here
    cases here with
    | value value => simpa only [closes] using .value [(key, value)] after
    | tooDeep nest => exact .tooDeep nest after
  next {fuel rest later after others?} ends enough goesOn there := by
    have shorter := length_le_writtenField key text rest
    have here := reads.finds fuel rest ends (by omega)
    obtain ⟨unread, opened, keyRead⟩ := exists_readString_writtenField enough
    simp only [opened, readFields, keyRead, skipSpaces_colon, skipSpaces_space,
      skipSpaces_of_begins (reads.begins.append rest)]
    generalize readValue fuel room (text ++ rest) = found at here
    cases here with
    | value value =>
        simpa only [goesOn, Option.map_some, Option.bind_some] using there.map ((key, value) :: ·)
    | tooDeep nest => exact .tooDeep nest after

theorem readValue_list (begins : BeginsPart text) (fuel room level : Nat) :
    readValue (fuel + 1) (room + 1) ('[' :: (newline level ++ text)) =
      (readItems fuel room text).map fun found => (.list found.1, found.2) := by
  rw [readValue, if_pos (Nat.succ_pos room), skipSpaces_newline, skipSpaces_of_begins begins]
  obtain ⟨c, tail, rfl, -, unclosed, -⟩ := begins
  split
  · next closed => exact absurd (List.cons.inj closed).1 unclosed
  · rfl

theorem readValue_record (begins : BeginsPart text) (fuel room level : Nat) :
    readValue (fuel + 1) (room + 1) ('\x7b' :: (newline level ++ text)) =
      (readFields fuel room text).map fun found =>
        (.record (Record.ofEntries found.1), found.2) := by
  rw [readValue, if_pos (Nat.succ_pos room), skipSpaces_newline, skipSpaces_of_begins begins]
  obtain ⟨c, tail, rfl, -, -, unclosed⟩ := begins
  split
  · next closed => exact absurd (List.cons.inj closed).1 unclosed
  · rfl

section Bracketed

variable {opening closing : Char} (begins : ∀ tail, BeginsPart (opening :: tail))

include begins

/-- A list or record is refused if there is no room for it, whatever it holds. -/
theorem readAs_bracketed_zero {nest : JsonNest}
    (refuses : ∀ (fuel : Nat) (unread : Text),
      readValue (fuel + 1) 0 (opening :: unread) = .error (.tooDeep nest))
    (level : Nat) (parts : List Text) :
    ReadAs 0 (bracketed opening closing level parts) none := by
  obtain ⟨inside, opened⟩ : ∃ inside,
      bracketed opening closing level parts = opening :: inside := by
    cases parts <;> exact ⟨_, rfl⟩
  rw [opened]
  refine readAs_of_finds (begins inside) fun fuel rest _ _ => ?_
  rw [List.cons_append, refuses]
  exact .tooDeep nest rest

/-- What the parts of a list or record are read as decides what the whole is read as. -/
theorem readAs_bracketed_succ {readParts : Nat → Text → Except JsonFault (List β × Text)}
    {whole : List β → Value} {text : α → Text} {part? : α → Option β}
    (visible : isSpace closing = false)
    (empty : ∀ (fuel : Nat) (rest : Text),
      readValue (fuel + 1) (room + 1) (opening :: closing :: rest) = .ok (whole [], rest))
    (some : ∀ (fuel : Nat) {unread : Text}, BeginsPart unread →
      readValue (fuel + 1) (room + 1) (opening :: (newline (level + 1) ++ unread)) =
        (readParts fuel unread).map fun found => (whole found.1, found.2))
    {parts : List α}
    (reads : ∀ part ∈ parts, ReadsPart readParts closing (text part) (part? part)) :
    ReadAs (room + 1) (bracketed opening closing level (parts.map text))
      ((parts.mapM part?).map whole) := by
  cases parts with
  | nil =>
      refine readAs_of_finds (begins _) fun fuel rest _ _ => ?_
      rw [List.map_nil, bracketed, List.cons_append, List.singleton_append, empty]
      exact .value _ rest
  | cons part parts =>
      rw [List.map_cons, bracketed_cons]
      refine readAs_of_finds (begins _) fun fuel rest _ enough => ?_
      simp only [List.cons_append, List.append_assoc] at enough ⊢
      rw [some fuel ((reads part List.mem_cons_self).begins.append _)]
      refine (finds_parts visible reads ?_).map whole
      rw [List.length_cons, List.length_append] at enough
      have feed : 0 < (newline (level + 1)).length := Nat.succ_pos _
      omega

end Bracketed

variable {text : α → Text} {value? : α → Option Value}

theorem readAs_list {items : List α} (reads : ∀ item ∈ items, ReadAs room (text item) (value? item))
    (level : Nat) :
    ReadAs (room + 1) (bracketed '[' ']' level (items.map text))
      ((items.mapM value?).map .list) :=
  readAs_bracketed_succ (fun _ => ⟨_, _, rfl, rfl, by decide, by decide⟩) rfl (fun _ _ => rfl)
    (fun fuel _ begins => readValue_list begins fuel room (level + 1))
    fun item member => (reads item member).item

theorem readAs_record {fields : List (Text × α)}
    (reads : ∀ field ∈ fields, ReadAs room (text field.2) (value? field.2)) (level : Nat) :
    ReadAs (room + 1)
      (bracketed '\x7b' '\x7d' level (fields.map fun field => writtenField (field.1, text field.2)))
      ((fields.mapM fun field => (value? field.2).map (Prod.mk field.1)).map fun entries =>
        .record (Record.ofEntries entries)) :=
  readAs_bracketed_succ (fun _ => ⟨_, _, rfl, rfl, by decide, by decide⟩) rfl (fun _ _ => rfl)
    (fun fuel _ begins => readValue_record begins fuel room (level + 1))
    fun field member => (reads field member).field field.1

end Json

end FeatureRunner
