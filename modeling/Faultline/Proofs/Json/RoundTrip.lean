import Faultline.Proofs.Json.Members
import Faultline.Proofs.Json.Numbers
import Faultline.Proofs.Json.Shape
import Faultline.Proofs.Json.Strings

/-!
A value is read back from its text. The induction is on the value, with any text that may follow,
so that items and members are read one after another out of the text of their collection.
-/

namespace Faultline

/-- The decimal is what its text is read as. -/
def Decimal.IsExact (d : Decimal) : Prop := Json.readNumber d.jsonText = .ok (.decimal d, [])

namespace Json

mutual
/-- A value that its text can say: its integers have 64 bits, with or without a sign, its decimals
are exact, and no object in it repeats a name. -/
def IsExact : Json → Prop
  | .integer n => -2 ^ 63 ≤ n ∧ n < 2 ^ 64
  | .decimal d => d.IsExact
  | .array items => AreExact items
  | .object members => (members.map Prod.fst).Nodup ∧ MembersAreExact members
  | _ => True

def AreExact : List Json → Prop
  | [] => True
  | item :: rest => item.IsExact ∧ AreExact rest

def MembersAreExact : List (String × Json) → Prop
  | [] => True
  | (_, value) :: rest => value.IsExact ∧ MembersAreExact rest
end

theorem membersAreExact_iff {members : List (String × Json)} :
    MembersAreExact members ↔ ∀ member ∈ members, member.2.IsExact := by
  induction members with
  | nil => simp [MembersAreExact]
  | cons member rest ih => rw [MembersAreExact, ih, List.forall_mem_cons]

theorem nestingMembers_lt_iff {members : List (String × Json)} {n : Nat} (positive : 0 < n) :
    nestingMembers members < n ↔ ∀ member ∈ members, member.2.nesting < n := by
  induction members with
  | nil => simpa [nestingMembers] using positive
  | cons member rest ih =>
    rw [nestingMembers, Nat.max_lt, ih, List.forall_mem_cons]

mutual
theorem IsExact.cut {value : Json} (exact : value.IsExact) (n : Nat) : (value.cut n).IsExact := by
  cases value with
  | array items => exact AreExact.cutItems exact n
  | object members =>
    refine ⟨?_, MembersAreExact.cutMembers exact.2 n⟩
    rw [names_cutMembers]
    exact exact.1
  | null | bool | integer | decimal | string => exact exact

theorem AreExact.cutItems {items : List Json} (exact : AreExact items) (n : Nat) :
    AreExact (Json.cutItems n items) := by
  cases items with
  | nil => exact exact
  | cons item rest => exact ⟨IsExact.cut exact.1 n, AreExact.cutItems exact.2 n⟩

theorem MembersAreExact.cutMembers {members : List (String × Json)}
    (exact : MembersAreExact members) (n : Nat) : MembersAreExact (Json.cutMembers n members) := by
  cases members with
  | nil => exact exact
  | cons member rest => exact ⟨IsExact.cut exact.1 n, MembersAreExact.cutMembers exact.2 n⟩
end

variable {cs rest left : List Char} {value : Json} {fuel depth : Nat} {c : Char}

theorem skipLayout_cons (visible : isLayout c = false) : skipLayout (c :: cs) = c :: cs :=
  List.dropWhile_cons_of_neg (by simp [visible])

theorem head_of_readNumber {result : Json × List Char} (read : readNumber cs = .ok result) :
    ∃ c more, cs = c :: more ∧ (c = '-' ∨ c.isDigit = true) := by
  cases cs with
  | nil => cases read
  | cons c more =>
    refine ⟨c, more, rfl, ?_⟩
    by_cases minus : c = '-'
    · exact .inl minus
    · right
      by_contra noDigit
      have unsigned : readNumber (c :: more) = readUnsigned false (c :: more) := by
        unfold readNumber
        split
        next same => cases same; exact absurd rfl minus
        next => rfl
      rw [unsigned, readUnsigned, List.takeWhile_cons_of_neg noDigit] at read
      cases read

theorem number_head (first : c = '-' ∨ c.isDigit = true) :
    isLayout c = false ∧ ∀ other ∈ ['n', 't', 'f', '"', '[', '\x7b', ']'], c ≠ other := by
  constructor
  · rw [← Bool.not_eq_true]
    intro layout
    simp only [isLayout, Bool.or_eq_true, beq_iff_eq] at layout
    rcases layout with ((rfl | rfl) | rfl) | rfl <;> exact absurd first (by decide)
  · intro other member same
    subst same
    simp only [List.mem_cons, List.not_mem_nil, or_false] at member
    rcases member with rfl | rfl | rfl | rfl | rfl | rfl | rfl <;> exact absurd first (by decide)

theorem readValue_number {result : Json × List Char} (read : readNumber cs = .ok result) :
    readValue (fuel + 1) depth cs = .ok result := by
  obtain ⟨c, more, rfl, first⟩ := head_of_readNumber read
  obtain ⟨visible, other⟩ := number_head first
  rw [readValue, skipLayout_cons visible]
  dsimp only
  rw [if_neg (other _ (by decide)), if_neg (other _ (by decide)), if_neg (other _ (by decide)),
    if_neg (other _ (by decide)), if_neg (other _ (by decide)), if_neg (other _ (by decide)),
    if_pos first, read]

theorem head_text (exact : value.IsExact) :
    ∃ c more, value.text = c :: more ∧ isLayout c = false ∧ c ≠ ']' := by
  have number (read : readNumber value.text = .ok (value, [])) :
      ∃ c more, value.text = c :: more ∧ isLayout c = false ∧ c ≠ ']' := by
    obtain ⟨c, more, same, first⟩ := head_of_readNumber read
    exact ⟨c, more, same, (number_head first).1, (number_head first).2 _ (by decide)⟩
  cases value with
  | null => exact ⟨'n', _, rfl, rfl, by decide⟩
  | bool truth => cases truth <;> exact ⟨_, _, rfl, rfl, by decide⟩
  | integer n => exact number (readNumber_integerChars exact.1 exact.2)
  | decimal d => exact number exact
  | string s => exact ⟨'"', _, rfl, rfl, by decide⟩
  | array items => cases items <;> exact ⟨'[', _, rfl, rfl, by decide⟩
  | object members => cases members <;> exact ⟨'\x7b', _, rfl, rfl, by decide⟩

theorem readValue_array (deep : 1 < depth) :
    readValue (fuel + 1) depth ('[' :: cs) =
      (readItems fuel (depth - 1) true cs).map fun (items, rest) => (.array items, rest) := by
  rw [readValue, skipLayout_cons rfl]
  dsimp only
  rw [if_neg (by decide), if_neg (by decide), if_neg (by decide), if_neg (by decide), if_pos rfl,
    if_neg (by omega)]

theorem readValue_object {members : List (String × Json)} (deep : 1 < depth)
    (read : readMembers fuel (depth - 1) true cs = (members, .closed rest)) :
    readValue (fuel + 1) depth ('\x7b' :: cs) = .ok (.object (resolve members), rest) := by
  rw [readValue, skipLayout_cons rfl]
  dsimp only
  rw [if_neg (by decide), if_neg (by decide), if_neg (by decide), if_neg (by decide),
    if_neg (by decide), if_pos rfl, if_neg (by omega), read]

theorem readItems_cons {first : Bool} {item : Json} {items : List Json} {start after : List Char}
    (visible : isLayout c = false) (opened : c ≠ ']')
    (begins : nextItem first (c :: cs) = .ok start)
    (read : readValue fuel depth start = .ok (item, after))
    (others : readItems fuel depth false after = .ok (items, rest)) :
    readItems (fuel + 1) depth first (c :: cs) = .ok (item :: items, rest) := by
  rw [readItems, skipLayout_cons visible]
  split
  next same => cases same
  next same => cases same; exact absurd rfl opened
  next =>
    rw [begins]
    dsimp only [bind, Except.bind]
    rw [read]
    dsimp only
    rw [others]

theorem nextItem_comma (visible : isLayout c = false) (opened : c ≠ ']') :
    nextItem false (',' :: c :: cs) = .ok (c :: cs) := by
  rw [nextItem, if_neg Bool.false_ne_true, skipLayout_cons visible]
  split
  next same => cases same
  next same => cases same; exact absurd rfl opened
  next => rfl

theorem readMembers_cons {first : Bool} {name : String} {members : List (String × Json)}
    {after : List Char} (visible : isLayout c = false) (opened : c ≠ '\x7d')
    (begins : nextMember first (c :: cs) = .ok (stringText name ++ ':' :: left))
    (read : readValue fuel depth left = .ok (value, after))
    (others : readMembers fuel depth false after = (members, .closed rest)) :
    readMembers (fuel + 1) depth first (c :: cs) = ((name, value) :: members, .closed rest) := by
  have named : readName (stringText name ++ ':' :: left) = .ok (name, left) := by
    rw [stringText_append, readName, readString_text]
    rfl
  rw [readMembers, skipLayout_cons visible]
  split
  next same => cases same
  next same => cases same; exact absurd rfl opened
  next =>
    rw [begins]
    dsimp only
    rw [named]
    dsimp only
    rw [read]
    dsimp only
    rw [others]

theorem readValue_string (s : String) :
    readValue (fuel + 1) depth (stringText s ++ rest) = .ok (.string s, rest) := by
  rw [stringText_append, readValue, skipLayout_cons rfl]
  dsimp only
  rw [if_neg (by decide), if_neg (by decide), if_neg (by decide), if_pos rfl, readString_text]
  rfl

def listText : List Json → List Char
  | [] => [']']
  | item :: items => item.text ++ itemsText items

def objectText : List (String × Json) → List Char
  | [] => ['\x7d']
  | (name, value) :: members => stringText name ++ ':' :: value.text ++ membersText members

theorem text_array (items : List Json) : (array items).text = '[' :: listText items := by
  cases items <;> simp [text, listText]

theorem text_object (members : List (String × Json)) :
    (object members).text = '\x7b' :: objectText members := by
  cases members <;> simp [text, objectText]

theorem delimited_itemsText (items : List Json) : Delimited (itemsText items ++ rest) := by
  cases items <;> simp [itemsText, Delimited]

theorem delimited_membersText (members : List (String × Json)) :
    Delimited (membersText members ++ rest) := by
  cases members <;> simp [membersText, Delimited]

theorem length_text_pos (exact : value.IsExact) : 0 < value.text.length := by
  obtain ⟨c, more, start, -⟩ := head_text exact
  rw [start]
  exact Nat.succ_pos more.length

theorem length_itemsText_pos (items : List Json) : 0 < (itemsText items).length := by
  cases items <;> simp [itemsText]

theorem length_membersText_pos (members : List (String × Json)) :
    0 < (membersText members).length := by
  cases members <;> simp [membersText]

-- The steps are bounded by the length of the text, since no value, item or member has an empty one.
mutual
/-- A value is read to the end of its text, if the nesting that is left and the steps suffice. -/
theorem readValue_text (value : Json) (exact : value.IsExact) (fuel depth : Nat)
    (rest : List Char) (shallow : value.nesting < depth) (long : value.text.length ≤ fuel)
    (delimited : Delimited rest) :
    readValue fuel depth (value.text ++ rest) = .ok (value, rest) := by
  -- the fuel goes down by one where the text loses a character at least
  have positive := length_text_pos exact
  obtain ⟨fuel, rfl⟩ := Nat.exists_eq_add_one.2 (Nat.lt_of_lt_of_le positive long)
  cases value with
  | null => rfl
  | bool truth => cases truth <;> rfl
  | integer n =>
    have read := readNumber_integerChars exact.1 exact.2
    exact readValue_number (readNumber_append delimited read)
  | decimal d => exact readValue_number (readNumber_append delimited exact)
  | string s => exact readValue_string s
  | array items =>
    rw [text_array, List.length_cons] at long
    rw [nesting] at shallow
    have read := readItems_listText items exact fuel (depth - 1) rest (by omega) (by omega)
    rw [text_array, List.cons_append, readValue_array (by omega), read]
    rfl
  | object members =>
    rw [text_object, List.length_cons] at long
    rw [nesting] at shallow
    have read := readMembers_objectText members exact.2 fuel (depth - 1) rest (by omega) (by omega)
    rw [text_object, List.cons_append, readValue_object (by omega) read,
      resolve_of_nodup exact.1]

theorem readItems_listText (items : List Json) (exact : AreExact items) (fuel depth : Nat)
    (rest : List Char) (shallow : nestingItems items < depth)
    (long : (listText items).length ≤ fuel) :
    readItems fuel depth true (listText items ++ rest) = .ok (items, rest) := by
  cases items with
  | nil =>
    obtain ⟨fuel, rfl⟩ := Nat.exists_eq_add_one.2 (Nat.lt_of_lt_of_le Nat.zero_lt_one long)
    rfl
  | cons item items =>
    have positive := length_text_pos exact.1
    have others := length_itemsText_pos items
    rw [listText, List.length_append] at long
    rw [nestingItems] at shallow
    obtain ⟨fuel, rfl⟩ := Nat.exists_eq_add_one.2 (show 0 < fuel by omega)
    obtain ⟨c, more, start, visible, opened⟩ := head_text exact.1
    have first := readValue_text item exact.1 fuel depth (itemsText items ++ rest)
      (by omega) (by omega) (delimited_itemsText items)
    have later := readItems_itemsText items exact.2 fuel depth rest (by omega) (by omega)
    rw [listText, List.append_assoc]
    rw [start, List.cons_append] at first ⊢
    exact readItems_cons visible opened rfl first later

theorem readItems_itemsText (items : List Json) (exact : AreExact items) (fuel depth : Nat)
    (rest : List Char) (shallow : nestingItems items < depth)
    (long : (itemsText items).length ≤ fuel) :
    readItems fuel depth false (itemsText items ++ rest) = .ok (items, rest) := by
  have positive := length_itemsText_pos items
  obtain ⟨fuel, rfl⟩ := Nat.exists_eq_add_one.2 (Nat.lt_of_lt_of_le positive long)
  cases items with
  | nil => rfl
  | cons item items =>
    rw [itemsText, List.length_append, List.length_cons] at long
    rw [nestingItems] at shallow
    obtain ⟨c, more, start, visible, opened⟩ := head_text exact.1
    have first := readValue_text item exact.1 fuel depth (itemsText items ++ rest)
      (by omega) (by omega) (delimited_itemsText items)
    have later := readItems_itemsText items exact.2 fuel depth rest (by omega) (by omega)
    rw [itemsText, List.cons_append, List.cons_append, List.append_assoc]
    rw [start, List.cons_append] at first ⊢
    exact readItems_cons rfl (by decide) (nextItem_comma visible opened) first later

theorem readMembers_objectText (members : List (String × Json)) (exact : MembersAreExact members)
    (fuel depth : Nat) (rest : List Char) (shallow : nestingMembers members < depth)
    (long : (objectText members).length ≤ fuel) :
    readMembers fuel depth true (objectText members ++ rest) = (members, .closed rest) := by
  cases members with
  | nil =>
    obtain ⟨fuel, rfl⟩ := Nat.exists_eq_add_one.2 (Nat.lt_of_lt_of_le Nat.zero_lt_one long)
    rfl
  | cons member members =>
    obtain ⟨name, value⟩ := member
    rw [objectText, List.length_append, List.length_append, List.length_cons] at long
    rw [nestingMembers] at shallow
    obtain ⟨fuel, rfl⟩ := Nat.exists_eq_add_one.2 (show 0 < fuel by omega)
    have first := readValue_text value exact.1 fuel depth (membersText members ++ rest)
      (by omega) (by omega) (delimited_membersText members)
    have later := readMembers_membersText members exact.2 fuel depth rest (by omega) (by omega)
    have begins := stringText_append name (':' :: (value.text ++ (membersText members ++ rest)))
    rw [objectText, List.append_assoc, List.append_assoc, List.cons_append, begins]
    exact readMembers_cons rfl (by decide) (congrArg Except.ok begins.symm) first later

theorem readMembers_membersText (members : List (String × Json)) (exact : MembersAreExact members)
    (fuel depth : Nat) (rest : List Char) (shallow : nestingMembers members < depth)
    (long : (membersText members).length ≤ fuel) :
    readMembers fuel depth false (membersText members ++ rest) = (members, .closed rest) := by
  have positive := length_membersText_pos members
  obtain ⟨fuel, rfl⟩ := Nat.exists_eq_add_one.2 (Nat.lt_of_lt_of_le positive long)
  cases members with
  | nil => rfl
  | cons member members =>
    obtain ⟨name, value⟩ := member
    rw [membersText, List.length_append, List.length_append, List.length_cons,
      List.length_cons] at long
    rw [nestingMembers] at shallow
    have first := readValue_text value exact.1 fuel depth (membersText members ++ rest)
      (by omega) (by omega) (delimited_membersText members)
    have later := readMembers_membersText members exact.2 fuel depth rest (by omega) (by omega)
    have begins : nextMember false
        (',' :: (stringText name ++ ':' :: (value.text ++ (membersText members ++ rest)))) =
          .ok (stringText name ++ ':' :: (value.text ++ (membersText members ++ rest))) := by
      rw [stringText_append]
      rfl
    simp only [membersText, List.cons_append, List.append_assoc]
    exact readMembers_cons rfl (by decide) begins first later
end

/-- The text of a value is read as the value. -/
theorem parse_compact (exact : value.IsExact) (shallow : value.nesting < nestingLimit) :
    parse value.compact = .ok value := by
  have read := readValue_text value exact (value.text.length + 1) nestingLimit [] shallow
    (Nat.le_succ _) (by simp [Delimited])
  rw [List.append_nil] at read
  unfold parse compact
  rw [String.toList_ofList]
  dsimp only
  rw [read]
  rfl

/-- The text of an object is read member by member to its end. -/
theorem readDocument_compact {members : List (String × Json)}
    (exact : (object members).IsExact) (shallow : (object members).nesting < nestingLimit) :
    readDocument (object members).compact = .members members none := by
  rw [nesting] at shallow
  have read := readMembers_objectText members exact.2 ((objectText members).length + 1 + 1)
    (nestingLimit - 1) [] (by omega) (by omega)
  rw [List.append_nil] at read
  unfold readDocument compact
  rw [String.toList_ofList, text_object]
  dsimp only [List.length_cons]
  rw [skipLayout_cons rfl]
  split
  next same => cases same
  next same =>
    cases same
    rw [read]
    rfl
  next noObject => exact absurd rfl (noObject _)

end Json
end Faultline
