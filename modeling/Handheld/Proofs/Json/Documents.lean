import Handheld.Proofs.Json.Layout

/-! Documents that have been written with indentation and are read again.
Only floating-point numbers are left out. Everything else is read as it was written, apart from
neighbouring halves of characters, which join, and members of one name, of which the last counts.
-/

namespace Handheld.Json

-----------------------------------------------------------------------------------------
-- What is left of a document
-----------------------------------------------------------------------------------------

/-- Whether a number has more digits than a reader puts up with. -/
def Limits.tooLong (limits : Limits) (value : Int) : Bool :=
  limits.digits.any (· < (Nat.toDigits 10 value.natAbs).length)

mutual

/-- What a reader makes of a value that has been written within `depth` arrays and objects. -/
def reread (limits : Limits) (depth : Nat) : Json → Except Refusal Json
  | .null => .ok .null
  | .bool value => .ok (.bool value)
  | .number (.int value) =>
      if limits.tooLong value then .error .longNumber else .ok (.int value)
  | .number (.float value) => .ok (.float value)
  | .string text => .ok (.string text.joined)
  | .array items =>
      if limits.depth = some depth then .error .deepNesting
      else (rereadItems limits (depth + 1) items).map .array
  | .object members =>
      if limits.depth = some depth then .error .deepNesting
      else (rereadMembers limits (depth + 1) members).map fun members => .object (dedupe members)

/-- What a reader makes of items, up to the first that it refuses. -/
def rereadItems (limits : Limits) (depth : Nat) : List Json → Except Refusal (List Json)
  | [] => .ok []
  | item :: items => do
      let item ← reread limits depth item
      let items ← rereadItems limits depth items
      return item :: items

/-- What a reader makes of members, up to the first that it refuses. -/
def rereadMembers (limits : Limits) (depth : Nat)
    : List (Text × Json) → Except Refusal (List (Text × Json))
  | [] => .ok []
  | (key, value) :: members => do
      let value ← reread limits depth value
      let members ← rereadMembers limits depth members
      return (key.joined, value) :: members

end

theorem rereadItems_cons (limits : Limits) (depth : Nat) (item : Json) (items : List Json)
    : rereadItems limits depth (item :: items)
        = (reread limits depth item).bind fun item =>
            (rereadItems limits depth items).map (item :: ·) := by
  rw [rereadItems]
  cases reread limits depth item with
  | error refusal => rfl
  | ok item => cases rereadItems limits depth items <;> rfl

theorem rereadMembers_cons (limits : Limits) (depth : Nat) (key : Text) (value : Json)
    (members : List (Text × Json))
    : rereadMembers limits depth ((key, value) :: members)
        = (reread limits depth value).bind fun value =>
            (rereadMembers limits depth members).map ((key.joined, value) :: ·) := by
  rw [rereadMembers]
  cases reread limits depth value with
  | error refusal => rfl
  | ok value => cases rereadMembers limits depth members <;> rfl

theorem insertMember_of_notMem {key : Text} {value : Json} {members : List (Text × Json)}
    (fresh : key ∉ members.map Prod.fst)
    : insertMember key value members = members ++ [(key, value)] := by
  induction members with
  | nil => rfl
  | cons member members ih =>
      rw [List.map_cons, List.mem_cons, not_or] at fresh
      rw [insertMember, if_neg (Ne.symm fresh.1), ih fresh.2]
      rfl

/-- Members of different names stay as they are. -/
theorem dedupe_eq_self {members : List (Text × Json)} (unique : (members.map Prod.fst).Nodup)
    : dedupe members = members := by
  have collected (done rest : List (Text × Json)) (unique : ((done ++ rest).map Prod.fst).Nodup)
      : rest.foldl (fun done member => insertMember member.1 member.2 done) done = done ++ rest := by
    induction rest generalizing done with
    | nil => exact (List.append_nil done).symm
    | cons member rest ih =>
        have fresh : member.1 ∉ done.map Prod.fst := by
          rw [List.map_append, List.nodup_append] at unique
          intro inside
          exact unique.2.2 _ inside _ (List.mem_map_of_mem List.mem_cons_self) rfl
        rw [List.foldl_cons, insertMember_of_notMem fresh, ih, List.append_assoc]
        · rfl
        · rwa [List.append_assoc]
  exact collected [] members unique

-----------------------------------------------------------------------------------------
-- How the parts of a document are read
-----------------------------------------------------------------------------------------

section
variable (limits : Limits) (depth budget : Nat) {rest : List CodePoint}

theorem readInfinity?_digit {c : Char} (digit : c.isDigit = true)
    : readWord?.readInfinity? (.char c :: rest) = none := by
  have apart : ¬ 'I' = c := (ne_of_isDigit digit rfl).symm
  have word : (Text.ofString "Infinity").points = .char 'I' :: (Text.ofString "nfinity").points :=
    rfl
  simp [readWord?.readInfinity?, word, List.isPrefixOf?, apart]

/-- No word begins with a digit. -/
theorem readWord?_digit {c : Char} (digit : c.isDigit = true)
    : readWord? (.char c :: rest) = none := by
  rw [readWord?, readInfinity?_digit digit, Option.map_none]
  all_goals
    intro _ same
    cases same
    cases digit

/-- No word is a sign with a digit behind it. -/
theorem readWord?_sign {c : Char} (digit : c.isDigit = true)
    : readWord? (.char '-' :: .char c :: rest) = none := by
  rw [readWord?, readInfinity?_digit digit, Option.map_none]

theorem readValue_string (text : Text) (rest : List CodePoint)
    : readValue limits depth (budget + 1) (pointsOf (renderString text) ++ rest)
        = .ok (.string text.joined, rest) := by
  have word (more : List CodePoint) : readWord? (.char '\x22' :: more) = none := rfl
  rw [pointsOf_renderString, List.cons_append, List.append_assoc, List.singleton_append, readValue,
    word, readString_written]
  rfl

/-- What begins with a digit is a number. -/
theorem readValue_digit {c : Char} (digit : c.isDigit = true) (text : List CodePoint)
    : readValue limits depth (budget + 1) (.char c :: text)
        = (readNumber limits false (.char c :: text)).map (Prod.map .number id) := by
  rw [readValue, readWord?_digit digit]
  · dsimp only
    cases readNumber limits false (.char c :: text) <;> rfl
  all_goals
    intro _ same
    cases same
    cases digit

theorem readValue_sign {c : Char} (digit : c.isDigit = true) (text : List CodePoint)
    : readValue limits depth (budget + 1) (.char '-' :: .char c :: text)
        = (readNumber limits true (.char c :: text)).map (Prod.map .number id) := by
  rw [readValue, readWord?_sign digit]
  dsimp only
  cases readNumber limits true (.char c :: text) <;> rfl

/-- A whole number is read as it was written, unless it is too long for the reader. -/
theorem readValue_int (value : Int) (ends : Ends rest)
    : readValue limits depth (budget + 1) (pointsOf (toString value) ++ rest)
        = if limits.tooLong value then .error .longNumber else .ok (.int value, rest) := by
  obtain ⟨c, digits, spelled, digit⟩ := exists_digit value.natAbs
  have number (negative : Bool) := readNumber_toDigits limits negative value.natAbs ends
  rw [spelled, List.map_cons, List.cons_append] at number
  rw [pointsOf_toString, spelled, List.map_cons, Limits.tooLong, spelled]
  split
  case isTrue below =>
    have same : -(value.natAbs : Int) = value := by omega
    rw [List.singleton_append, List.cons_append, List.cons_append, readValue_sign _ _ _ digit,
      number true, if_pos rfl, same]
    split <;> rfl
  case isFalse above =>
    have same : (value.natAbs : Int) = value := by omega
    rw [List.nil_append, List.cons_append, readValue_digit _ _ _ digit, number false,
      if_neg Bool.false_ne_true, same]
    split <;> rfl

/-- One of the words that stand for a value is read as the value. -/
theorem readValue_word {text : List CodePoint} {reading : Json × List CodePoint}
    (word : readWord? text = some reading)
    : readValue limits depth (budget + 1) text = .ok reading := by
  rw [readValue.eq_def]
  simp only [word]
  rfl

theorem readValue_null (level : Nat) (rest : List CodePoint)
    : readValue limits depth (budget + 1) (pointsOf (Json.null.indented level) ++ rest)
        = .ok (.null, rest) := by
  rw [indented, pointsOf]
  exact readValue_word limits depth budget rfl

theorem readValue_bool (value : Bool) (level : Nat) (rest : List CodePoint)
    : readValue limits depth (budget + 1) (pointsOf ((Json.bool value).indented level) ++ rest)
        = .ok (.bool value, rest) := by
  cases value with
  | true =>
      rw [indented, pointsOf]
      exact readValue_word limits depth budget rfl
  | false =>
      rw [indented, pointsOf]
      exact readValue_word limits depth budget rfl

theorem readValue_array_nil (rest : List CodePoint)
    : readValue limits depth (budget + 1) (.char '[' :: .char ']' :: rest)
        = if limits.depth = some depth then .error .deepNesting else .ok (.array [], rest) := by
  have word : readWord? (.char '[' :: .char ']' :: rest) = none := rfl
  have close : skipSpace (.char ']' :: rest) = .char ']' :: rest := rfl
  rw [readValue, word]
  simp only [close]
  rfl

/-- An array that does not end at once goes on with its items. -/
theorem readValue_array_cons {text items : List CodePoint} (start : skipSpace text = items)
    (begins : Begins items)
    : readValue limits depth (budget + 1) (.char '[' :: text)
        = if limits.depth = some depth then .error .deepNesting
          else (readItems limits (depth + 1) budget items).map (Prod.map .array id) := by
  have word : readWord? (.char '[' :: text) = none := rfl
  obtain ⟨c, more, rfl, opening⟩ := begins
  rw [readValue, word]
  dsimp only
  rw [start]
  split
  case isTrue => rfl
  case isFalse =>
    split
    case h_1 same =>
      cases same
      cases opening
    case h_2 => cases readItems limits (depth + 1) budget (.char c :: more) <;> rfl

theorem readValue_object_nil (rest : List CodePoint)
    : readValue limits depth (budget + 1) (.char '\x7b' :: .char '\x7d' :: rest)
        = if limits.depth = some depth then .error .deepNesting else .ok (.object [], rest) := by
  have word : readWord? (.char '\x7b' :: .char '\x7d' :: rest) = none := rfl
  have close : skipSpace (.char '\x7d' :: rest) = .char '\x7d' :: rest := rfl
  rw [readValue, word]
  simp only [close]
  rfl

/-- An object that does not end at once goes on with its members. -/
theorem readValue_object_cons {text members : List CodePoint} (start : skipSpace text = members)
    (begins : Begins members)
    : readValue limits depth (budget + 1) (.char '\x7b' :: text)
        = if limits.depth = some depth then .error .deepNesting
          else (readMembers limits (depth + 1) budget members).map
            (Prod.map (fun members => .object (dedupe members)) id) := by
  have word : readWord? (.char '\x7b' :: text) = none := rfl
  obtain ⟨c, more, rfl, opening⟩ := begins
  rw [readValue, word]
  dsimp only
  rw [start]
  split
  case isTrue => rfl
  case isFalse =>
    split
    case h_1 same =>
      cases same
      cases opening
    case h_2 => cases readMembers limits (depth + 1) budget (.char c :: more) <;> rfl

variable {text more body : List CodePoint} {key : Text} {reading : Except Refusal Json}

theorem readItems_next
    (read : readValue limits depth budget (skipSpace text) = reading.map (·, rest))
    (comma : skipSpace rest = .char ',' :: more)
    : readItems limits depth (budget + 1) text
        = reading.bind fun item =>
            (readItems limits depth budget more).map (Prod.map (item :: ·) id) := by
  rw [readItems, read]
  cases reading with
  | error refusal => rfl
  | ok item =>
      simp only [Except.map, bind, Except.bind, comma]
      cases readItems limits depth budget more <;> rfl

theorem readItems_last
    (read : readValue limits depth budget (skipSpace text) = reading.map (·, rest))
    (close : skipSpace rest = .char ']' :: more)
    : readItems limits depth (budget + 1) text = reading.map fun item => ([item], more) := by
  rw [readItems, read]
  cases reading with
  | error refusal => rfl
  | ok item =>
      simp only [Except.map, bind, Except.bind, close]
      rfl

/-- A member goes on with its value once its name has been read. -/
theorem readMembers_member
    (start : skipSpace text = pointsOf (renderString key ++ ": ") ++ body)
    : readMembers limits depth (budget + 1) text = (do
        let (value, rest) ← readValue limits depth budget (skipSpace body)
        match skipSpace rest with
        | .char ',' :: rest =>
            let (members, rest) ← readMembers limits depth budget rest
            return ((key.joined, value) :: members, rest)
        | .char '\x7d' :: rest => return ([(key.joined, value)], rest)
        | _ => throw .malformed) := by
  have colon : pointsOf ": " = [.char ':', .char ' '] := by
    rw [pointsOf]
    rfl
  rw [pointsOf_append, pointsOf_renderString, colon, List.cons_append, List.cons_append,
    List.append_assoc, List.append_assoc, List.singleton_append] at start
  have name := readString_written key.points (.char ':' :: .char ' ' :: body)
  rw [readMembers, start]
  simp only [List.cons_append, List.nil_append, name]
  rfl

theorem readMembers_next (start : skipSpace text = pointsOf (renderString key ++ ": ") ++ body)
    (read : readValue limits depth budget (skipSpace body) = reading.map (·, rest))
    (comma : skipSpace rest = .char ',' :: more)
    : readMembers limits depth (budget + 1) text
        = reading.bind fun value =>
            (readMembers limits depth budget more).map (Prod.map ((key.joined, value) :: ·) id) := by
  rw [readMembers_member _ _ _ start, read]
  cases reading with
  | error refusal => rfl
  | ok value =>
      simp only [Except.map, bind, Except.bind, comma]
      cases readMembers limits depth budget more <;> rfl

theorem readMembers_last (start : skipSpace text = pointsOf (renderString key ++ ": ") ++ body)
    (read : readValue limits depth budget (skipSpace body) = reading.map (·, rest))
    (close : skipSpace rest = .char '\x7d' :: more)
    : readMembers limits depth (budget + 1) text
        = reading.map fun value => ([(key.joined, value)], more) := by
  rw [readMembers_member _ _ _ start, read]
  cases reading with
  | error refusal => rfl
  | ok value =>
      simp only [Except.map, bind, Except.bind, close]
      rfl

end

-----------------------------------------------------------------------------------------
-- How a document is read
-----------------------------------------------------------------------------------------

mutual

/-- A written value is read as what is left of it, and nothing behind it is touched.
Witness: the budget exceeds the length of the text, which loses two brackets where an array or an
object is entered and a separator from one part to the next.
-/
theorem readValue_indented (limits : Limits) (depth : Nat) (value : Json)
    (exact : value.isExact = true) (level : Nat) {budget : Nat} {text rest : List CodePoint}
    (start : text = pointsOf (value.indented level) ++ rest) (ends : Ends rest)
    (room : (pointsOf (value.indented level)).length < budget)
    : readValue limits depth budget text = (reread limits depth value).map (·, rest) := by
  subst start
  obtain ⟨budget, rfl⟩ : ∃ less, budget = less + 1 := ⟨budget - 1, by omega⟩
  cases value with
  | null =>
      rw [readValue_null, reread]
      rfl
  | bool value =>
      rw [readValue_bool, reread]
      rfl
  | number value =>
      cases value with
      | float value => cases exact
      | int value =>
          rw [indented, renderNumber, readValue_int _ _ _ _ ends, reread]
          split <;> rfl
  | string text =>
      rw [indented, readValue_string, reread]
      rfl
  | array items =>
      cases items with
      | nil =>
          rw [pointsOf_array_nil, List.cons_append, List.singleton_append, readValue_array_nil,
            reread, rereadItems]
          split <;> rfl
      | cons item items =>
          rw [isExact] at exact
          have begins := (begins_writtenItems (Bool.and_eq_true_iff.mp exact).1 items
            (level + 1)).append (pointsOf (newline level) ++ .char ']' :: rest)
          have start := (skipSpace_newline (level + 1) _).trans begins.skipSpace_eq
          rw [pointsOf_array_cons] at room ⊢
          simp only [List.length_cons, List.length_append, List.length_nil] at room
          simp only [List.cons_append, List.append_assoc, List.nil_append]
          rw [readValue_array_cons _ _ _ start begins, reread,
            readItems_written limits (depth + 1) item items exact (level + 1) level
              begins.skipSpace_eq (by omega)]
          split
          case isTrue => rfl
          case isFalse => cases rereadItems limits (depth + 1) (item :: items) <;> rfl
  | object members =>
      cases members with
      | nil =>
          rw [pointsOf_object_nil, List.cons_append, List.singleton_append, readValue_object_nil,
            reread, rereadMembers]
          split <;> rfl
      | cons member members =>
          rw [isExact] at exact
          have begins := (begins_writtenMembers member members (level + 1)).append
            (pointsOf (newline level) ++ .char '\x7d' :: rest)
          have start := (skipSpace_newline (level + 1) _).trans begins.skipSpace_eq
          rw [pointsOf_object_cons] at room ⊢
          simp only [List.length_cons, List.length_append, List.length_nil] at room
          simp only [List.cons_append, List.append_assoc, List.nil_append]
          rw [readValue_object_cons _ _ _ start begins, reread,
            readMembers_written limits (depth + 1) member members exact (level + 1) level
              begins.skipSpace_eq (by omega)]
          split
          case isTrue => rfl
          case isFalse => cases rereadMembers limits (depth + 1) (member :: members) <;> rfl
termination_by sizeOf value

/-- Written items are read up to the closing bracket, and the bracket with them. -/
theorem readItems_written (limits : Limits) (depth : Nat) (item : Json) (items : List Json)
    (exact : areExact (item :: items) = true) (level outer : Nat) {budget : Nat}
    {text rest : List CodePoint}
    (start : skipSpace text = writtenItems level (item :: items)
      ++ (pointsOf (newline outer) ++ .char ']' :: rest))
    (room : (writtenItems level (item :: items)).length + 1 < budget)
    : readItems limits depth budget text
        = (rereadItems limits depth (item :: items)).map (·, rest) := by
  obtain ⟨budget, rfl⟩ : ∃ less, budget = less + 1 := ⟨budget - 1, by omega⟩
  obtain ⟨whole, exact'⟩ := Bool.and_eq_true_iff.mp exact
  cases items with
  | nil =>
      rw [writtenItems_singleton] at start room
      have read := readValue_indented limits depth item whole level start (ends_newline outer _)
        (Nat.lt_of_succ_lt_succ room)
      rw [readItems_last _ _ _ read (skipSpace_newline outer _), rereadItems_cons, rereadItems]
      cases reread limits depth item <;> rfl
  | cons next items =>
      rw [writtenItems_cons_cons] at start room
      simp only [List.length_cons, List.length_append] at room
      simp only [List.cons_append, List.append_assoc] at start
      have begins := (begins_writtenItems (Bool.and_eq_true_iff.mp exact').1 items level).append
        (pointsOf (newline outer) ++ .char ']' :: rest)
      have more := (skipSpace_newline level _).trans begins.skipSpace_eq
      have room' : (pointsOf (item.indented level)).length < budget := by omega
      have read := readValue_indented limits depth item whole level start (ends_comma _) room'
      rw [readItems_next _ _ _ read rfl,
        readItems_written limits depth next items exact' level outer more (by omega),
        rereadItems_cons limits depth item]
      cases reread limits depth item with
      | error refusal => rfl
      | ok item => cases rereadItems limits depth (next :: items) <;> rfl
termination_by sizeOf (item :: items)

/-- Written members are read up to the closing brace, and the brace with them. -/
theorem readMembers_written (limits : Limits) (depth : Nat) (member : Text × Json)
    (members : List (Text × Json)) (exact : haveExact (member :: members) = true)
    (level outer : Nat) {budget : Nat} {text rest : List CodePoint}
    (start : skipSpace text = writtenMembers level (member :: members)
      ++ (pointsOf (newline outer) ++ .char '\x7d' :: rest))
    (room : (writtenMembers level (member :: members)).length + 1 < budget)
    : readMembers limits depth budget text
        = (rereadMembers limits depth (member :: members)).map (·, rest) := by
  obtain ⟨budget, rfl⟩ : ∃ less, budget = less + 1 := ⟨budget - 1, by omega⟩
  cases member with
  | mk key value =>
    obtain ⟨whole, exact'⟩ := Bool.and_eq_true_iff.mp exact
    have body (after : List CodePoint) := ((begins_indented whole level).append after).skipSpace_eq
    cases members with
    | nil =>
        rw [writtenMembers_singleton] at start room
        simp only [List.length_append] at room
        rw [List.append_assoc] at start
        have room' : (pointsOf (value.indented level)).length < budget := by omega
        have read := readValue_indented limits depth value whole level (body _)
          (ends_newline outer (.char '\x7d' :: rest)) room'
        rw [readMembers_last _ _ _ start read (skipSpace_newline outer _), rereadMembers_cons,
          rereadMembers]
        cases reread limits depth value <;> rfl
    | cons next members =>
        rw [writtenMembers_cons_cons] at start room
        simp only [List.length_cons, List.length_append] at room
        simp only [List.cons_append, List.append_assoc] at start
        have begins := (begins_writtenMembers next members level).append
          (pointsOf (newline outer) ++ .char '\x7d' :: rest)
        have more := (skipSpace_newline level _).trans begins.skipSpace_eq
        have room' : (pointsOf (value.indented level)).length < budget := by omega
        rw [readMembers_next _ _ _ start
            (readValue_indented limits depth value whole level (body _) (ends_comma _) room') rfl,
          readMembers_written limits depth next members exact' level outer more (by omega),
          rereadMembers_cons limits depth key]
        cases reread limits depth value with
        | error refusal => rfl
        | ok value => cases rereadMembers limits depth (next :: members) <;> rfl
termination_by sizeOf (member :: members)

end

/-- A document that has been written is read as what is left of it. -/
theorem parse_indented (limits : Limits) {document : Json} (exact : document.isExact = true)
    : parse (document.indented 0) limits = reread limits 0 document := by
  have points : (Text.ofString (document.indented 0)).points = pointsOf (document.indented 0) := by
    rw [pointsOf]
  have read := readValue_indented limits 0 document exact 0 (List.append_nil _).symm ends_nil
    (Nat.lt_succ_self _)
  rw [parse, points, (begins_indented exact 0).skipSpace_eq, read]
  cases reread limits 0 document <;> rfl

end Handheld.Json
