import SqlDialects.Dialect.Standard
import SqlDialects.Proofs.Formula
import SqlDialects.Proofs.Tokens

/-!
A grammar of formulas in the standard dialect, and that a text has at most one reading in it. What
may follow a phrase cannot continue it, so phrases are read from left to right without looking
back.
-/

namespace SqlDialects

inductive Sign where
  | comparison (comparison : Comparison)
  | bitwise (operator : BitOperator)
deriving DecidableEq

namespace Sign

def text : Sign → List Char
  | .comparison test =>
      ' ' :: ((Dialect.standard.operators.comparison test).getD "").toList ++ [' ']
  | .bitwise operator =>
      ' ' :: ((Dialect.standard.operators.bitwise operator).getD "").toList ++ [' ']

def expr : Sign → Expr → Expr → Expr
  | .comparison test => .comparison test
  | .bitwise operator => .bitwise operator

end Sign

/-- What may follow an operand inside of a phrase. -/
inductive Mark where
  | sign (sign : Sign)
  | range (test : RangeTest)
  | connective (connective : Connective)
deriving DecidableEq

namespace Mark

def text : Mark → List Char
  | .sign operator => operator.text
  | .range test => test.text.toList
  | .connective joint => joint.text.toList

/-- Every mark; inversion stands before its operand, and so is none. -/
def all : List Mark :=
  (Vocabulary.members.map fun comparison => .sign (.comparison comparison))
    ++ ([.and, .or, .xor, .shiftLeft, .shiftRight].map fun operator => .sign (.bitwise operator))
    ++ [.range .between, .range .notBetween, .connective .and, .connective .or]

theorem mem_all {mark : Mark} (proper : mark ≠ .sign (.bitwise .invert)) : mark ∈ all := by
  rcases mark with (comparison | operator) | test | connective
  · simp [all, Vocabulary.complete comparison]
  · cases operator <;> simp_all [all]
  · cases test <;> simp [all]
  · cases connective <;> simp [all]

/-- The text of a mark begins with the text of another one in a single case. -/
theorem text_begins : ∀ mark ∈ all, ∀ other ∈ all, mark.text <+: other.text →
    mark = other ∨
      mark = .sign (.comparison .is) ∧ other = .sign (.comparison .isNot) := by
  decide +kernel

theorem head_text (mark : Mark) : ∃ more, mark.text = ' ' :: more := by
  rcases mark with (comparison | operator) | test | connective
  · exact ⟨_, rfl⟩
  · exact ⟨_, rfl⟩
  · cases test <;> exact ⟨_, rfl⟩
  · cases connective <;> exact ⟨_, rfl⟩

end Mark

/-- A text that does not begin like a negation. -/
def Affirms (text : List Char) : Prop :=
  ∀ more, text ≠ 'N' :: 'O' :: more

namespace Mark

theorem text_isNot : (sign (.comparison .isNot)).text =
    (sign (.comparison .is)).text ++ ['N', 'O', 'T', ' '] := by
  decide +kernel

section Unique

variable {mark other : Mark} {rest otherRest between : List Char}

theorem eq_of_longer (proper : mark ≠ .sign (.bitwise .invert))
    (otherProper : other ≠ .sign (.bitwise .invert)) (longer : other.text = mark.text ++ between)
    (affirms : mark = .sign (.comparison .is) → Affirms (between ++ otherRest)) : mark = other := by
  rcases text_begins mark (mem_all proper) other (mem_all otherProper) ⟨between, longer.symm⟩
    with equal | ⟨rfl, rfl⟩
  · exact equal
  · rw [text_isNot] at longer
    have negation := List.append_cancel_left longer
    rw [← negation] at affirms
    exact absurd rfl (affirms rfl (['T', ' '] ++ otherRest))

theorem unique (mark other : Mark) (proper : mark ≠ .sign (.bitwise .invert))
    (otherProper : other ≠ .sign (.bitwise .invert))
    (same : mark.text ++ rest = other.text ++ otherRest)
    (affirms : mark = .sign (.comparison .is) → Affirms rest)
    (otherAffirms : other = .sign (.comparison .is) → Affirms otherRest) :
    mark = other ∧ rest = otherRest := by
  have marks : mark = other := by
    rcases List.append_eq_append_iff.mp same with ⟨between, longer, rfl⟩ | ⟨between, longer, rfl⟩
    · exact eq_of_longer proper otherProper longer affirms
    · exact (eq_of_longer otherProper proper longer otherAffirms).symm
  subst marks
  exact ⟨rfl, List.append_cancel_left same⟩

end Unique

end Mark

/-- The phrases of the grammar. A tail is what follows an operand in an item, and more are the items
behind the first one of a list. -/
inductive Phrase where
  | operand
  | tail (left : Expr)
  | item
  | more (connective : Connective)
  | clause

/-- The texts of the formulas, by phrase. -/
inductive Spelled : Phrase → Expr → List Char → Prop
  | identifier {name : Identifier} (valid : name.flaw? = none) :
      Spelled .operand (.identifier name) (Dialect.standard.identifierText name).toList
  | literal {name : String} {value : Value} {text : String} (simple : value.isSimple)
      (written : NamedDialect.literalText ⟨.standard, name⟩ value = .ok text) :
      Spelled .operand (.literal value) text.toList
  | parenthesized {expr : Expr} {text : List Char} (inside : Spelled .clause expr text) :
      Spelled .operand expr ('(' :: (text ++ [')']))
  | alone {left : Expr} : Spelled (.tail left) left []
  | signed {left right : Expr} {sign : Sign} {text : List Char} (proper : sign ≠ .bitwise .invert)
      (operand : Spelled .operand right text) :
      Spelled (.tail left) (sign.expr left right) (sign.text ++ text)
  | ranged {left low high : Expr} {test : RangeTest} {lowText highText : List Char}
      (lower : Spelled .operand low lowText) (upper : Spelled .operand high highText) :
      Spelled (.tail left) (.range test left low high)
        (test.text.toList ++ (lowText ++ (Connective.and.text.toList ++ highText)))
  | led {left expr : Expr} {text rest : List Char} (operand : Spelled .operand left text)
      (tail : Spelled (.tail left) expr rest) : Spelled .item expr (text ++ rest)
  | inverted {right : Expr} {text : List Char} (operand : Spelled .operand right text) :
      Spelled .item (.rightBitwise .invert right) ('~' :: text)
  | negated {expr : Expr} {text : List Char} (inside : Spelled .clause expr text) :
      Spelled .item (.not expr) ('N' :: 'O' :: 'T' :: ' ' :: '(' :: (text ++ [')']))
  | last {connective : Connective} {item : Expr} {text : List Char}
      (spelled : Spelled .item item text) :
      Spelled (.more connective) (.conditions connective [item]) (connective.text.toList ++ text)
  | next {connective : Connective} {item : Expr} {items : List Expr} {text rest : List Char}
      (spelled : Spelled .item item text)
      (later : Spelled (.more connective) (.conditions connective items) rest) :
      Spelled (.more connective) (.conditions connective (item :: items))
        (connective.text.toList ++ (text ++ rest))
  | single {item : Expr} {text : List Char} (spelled : Spelled .item item text) :
      Spelled .clause item text
  | several {connective : Connective} {item : Expr} {items : List Expr} {text rest : List Char}
      (spelled : Spelled .item item text)
      (later : Spelled (.more connective) (.conditions connective items) rest) :
      Spelled .clause (.conditions connective (item :: items)) (text ++ rest)

/-- What may follow an operand, an item and a clause. -/
def EndsOperand (rest : List Char) : Prop :=
  ∀ character ∈ rest.head?, character = ' ' ∨ character = ')'

def EndsClause (rest : List Char) : Prop :=
  ∀ character ∈ rest.head?, character = ')'

def EndsItem (rest : List Char) : Prop :=
  EndsClause rest ∨ ∃ connective more, rest = (Mark.connective connective).text ++ more

def Phrase.Ends : Phrase → List Char → Prop
  | .operand => EndsOperand
  | .tail _ | .item => EndsItem
  | .more _ | .clause => EndsClause

theorem endsClause_closing (more : List Char) : EndsClause (')' :: more) := by
  simp [EndsClause]

theorem endsOperand_mark (mark : Mark) (more : List Char) : EndsOperand (mark.text ++ more) := by
  obtain ⟨later, begins⟩ := mark.head_text
  simp [EndsOperand, begins]

theorem not_endsClause_mark (mark : Mark) (more : List Char) : ¬EndsClause (mark.text ++ more) := by
  obtain ⟨later, begins⟩ := mark.head_text
  simp [EndsClause, begins]

theorem endsItem_connective (connective : Connective) (more : List Char) :
    EndsItem ((Mark.connective connective).text ++ more) :=
  .inr ⟨connective, more, rfl⟩

theorem EndsClause.endsItem {rest : List Char} (ends : EndsClause rest) : EndsItem rest :=
  .inl ends

theorem EndsItem.endsOperand {rest : List Char} (ends : EndsItem rest) : EndsOperand rest := by
  rcases ends with closed | ⟨connective, more, rfl⟩
  · exact fun character member => .inr (closed character member)
  · exact endsOperand_mark _ more

theorem EndsOperand.not_mem {rest : List Char} (ends : EndsOperand rest) {character : Char}
    (continues : character ≠ ' ' ∧ character ≠ ')') : character ∉ rest.head? := by
  intro member
  rcases ends character member with blank | closing
  · exact continues.1 blank
  · exact continues.2 closing

namespace Value

def leads : Value → Char → Prop
  | .null, first => first = 'N'
  | .boolean _, first => first = 'T' ∨ first = 'F'
  | .integer _, first => isNumeral first
  | _, first => first = '\''

variable {value other : Value} {text : String}

theorem leads_of_literalText {name : String} (simple : value.isSimple)
    (written : NamedDialect.literalText ⟨.standard, name⟩ value = .ok text) :
    ∃ first more, text.toList = first :: more ∧ value.leads first := by
  cases value with
  | null =>
      cases written
      exact ⟨_, _, (rfl : "NULL".toList = _), rfl⟩
  | boolean truth =>
      cases written
      cases truth
      · exact ⟨_, _, (rfl : "FALSE".toList = _), .inr rfl⟩
      · exact ⟨_, _, (rfl : "TRUE".toList = _), .inl rfl⟩
  | integer number =>
      cases written
      exact exists_numeral number.toInt
  | text content =>
      exact ⟨_, _, NamedDialect.toList_of_quoteText written Dialect.doublesQuotes_standard, rfl⟩
  | float | blob | timestamp => simp [isSimple] at simple

def kindOf (first : Char) : String :=
  if isNumeral first then "int"
  else if first = 'N' then "null"
  else if first = 'T' ∨ first = 'F' then "bool"
  else "text"

theorem kindOf_eq_kind {first : Char} (simple : value.isSimple) (leads : value.leads first) :
    kindOf first = value.kind := by
  cases value with
  | null =>
      subst leads
      decide
  | boolean truth => rcases leads with rfl | rfl <;> rfl
  | integer number =>
      have numeral : isNumeral first = true := leads
      simp [kindOf, numeral, kind]
  | text content =>
      subst leads
      rfl
  | float | blob | timestamp => simp [isSimple] at simple

theorem not_leads {first : Char} (simple : value.isSimple)
    (outside : first ∈ ['~', '(', '"', '*']) : ¬value.leads first := by
  have plain : isNumeral first = false ∧ first ∉ ['N', 'T', 'F', '\''] := by
    simp only [List.mem_cons, List.not_mem_nil, or_false] at outside
    rcases outside with rfl | rfl | rfl | rfl <;> decide
  cases value with
  | null | boolean | integer | text => simp_all [leads]
  | float | blob | timestamp => simp [isSimple] at simple

theorem literalText_unique {name otherName otherText : String} {rest otherRest : List Char}
    (simple : value.isSimple) (otherSimple : other.isSimple)
    (written : NamedDialect.literalText ⟨.standard, name⟩ value = .ok text)
    (otherWritten : NamedDialect.literalText ⟨.standard, otherName⟩ other = .ok otherText)
    (same : text.toList ++ rest = otherText.toList ++ otherRest) (ends : EndsOperand rest)
    (otherEnds : EndsOperand otherRest) : value = other ∧ rest = otherRest := by
  have kinds : value.kind = other.kind := by
    obtain ⟨first, more, begins, leads⟩ := leads_of_literalText simple written
    obtain ⟨otherFirst, otherMore, otherBegins, otherLeads⟩ :=
      leads_of_literalText otherSimple otherWritten
    rw [begins, otherBegins] at same
    obtain ⟨rfl, _⟩ := List.cons.inj same
    rw [← kindOf_eq_kind simple leads, ← kindOf_eq_kind otherSimple otherLeads]
  cases value <;> cases other <;> simp [kind] at kinds
  case null.null =>
    cases written
    cases otherWritten
    exact ⟨rfl, List.append_cancel_left same⟩
  case boolean.boolean truth otherTruth =>
    cases written
    cases otherWritten
    cases truth <;> cases otherTruth <;> simp_all [Dialect.booleanText, Dialect.standard]
  case integer.integer number otherNumber =>
    cases written
    cases otherWritten
    have numeralEnds : ∀ {later : List Char}, EndsOperand later →
        ∀ character ∈ later.head?, isNumeral character = false := by
      intro later laterEnds character member
      rcases laterEnds character member with rfl | rfl <;> decide
    obtain ⟨numbers, rests⟩ := intText_unique same (numeralEnds ends) (numeralEnds otherEnds)
    exact ⟨by rw [Int64.toInt_inj.mp numbers], rests⟩
  case text.text content otherContent =>
    rw [NamedDialect.toList_of_quoteText written Dialect.doublesQuotes_standard,
      NamedDialect.toList_of_quoteText otherWritten Dialect.doublesQuotes_standard,
      List.cons_append, List.cons_append, List.append_assoc, List.append_assoc] at same
    have apart : '\'' ≠ ' ' ∧ '\'' ≠ ')' := by decide
    obtain ⟨contents, rests⟩ := quoted_unique (List.cons.inj same).2
      (ends.not_mem apart) (otherEnds.not_mem apart)
    exact ⟨by rw [String.toList_injective contents], rests⟩
  all_goals simp [isSimple] at simple

end Value

theorem Identifier.leads {name : Identifier} (valid : name.flaw? = none) :
    ∃ first more, (Dialect.standard.identifierText name).toList = first :: more ∧
      (first = '"' ∨ first = '*') := by
  obtain ⟨_ | ⟨part, rest⟩⟩ := name
  · exact absurd rfl (parts_ne_nil valid)
  · rw [Dialect.toList_identifierText]
    cases part with
    | name text =>
        rw [Dialect.partText, Dialect.toList_nameText rfl]
        exact ⟨_, _, rfl, .inl rfl⟩
    | star => exact ⟨_, _, rfl, .inr rfl⟩

namespace Spelled

variable {expr : Expr} {text : List Char}

theorem literal_begins {name : String} {value : Value} {text : String} (simple : value.isSimple)
    (written : NamedDialect.literalText ⟨.standard, name⟩ value = .ok text) (rest : List Char) :
    Affirms (text.toList ++ rest) ∧ ∀ first more, text.toList ++ rest = first :: more →
      value.leads first := by
  have heads : ∀ first more, text.toList ++ rest = first :: more → value.leads first := by
    obtain ⟨lead, later, begins, leads⟩ := Value.leads_of_literalText simple written
    intro first more same
    rw [begins] at same
    rw [← (List.cons.inj same).1]
    exact leads
  refine ⟨?_, heads⟩
  intro more same
  have kinds : "null" = value.kind := Value.kindOf_eq_kind simple (heads _ _ same)
  cases value <;> simp [Value.kind] at kinds
  cases written
  simp [Dialect.standard] at same

theorem operand_begins (spelled : Spelled .operand expr text) (rest : List Char) :
    Affirms (text ++ rest) ∧ ∀ more, text ++ rest ≠ '~' :: more := by
  cases spelled with
  | identifier valid =>
      obtain ⟨first, more, begins, rfl | rfl⟩ := Identifier.leads valid <;>
        simp [begins, Affirms]
  | literal simple written =>
      obtain ⟨affirms, heads⟩ := literal_begins simple written rest
      refine ⟨affirms, fun more same => ?_⟩
      exact Value.not_leads simple (by decide) (heads _ _ same)
  | parenthesized inside => simp [Affirms]

theorem tail_ends {left : Expr} (spelled : Spelled (.tail left) expr text) {rest : List Char}
    (ends : EndsItem rest) : EndsOperand (text ++ rest) := by
  cases spelled with
  | alone => exact ends.endsOperand
  | signed proper operand =>
      rw [List.append_assoc]
      exact endsOperand_mark (.sign _) _
  | ranged lower upper =>
      rw [List.append_assoc]
      exact endsOperand_mark (.range _) _

theorem more_begins {connective : Connective} (spelled : Spelled (.more connective) expr text) :
    ∃ later, text = (Mark.connective connective).text ++ later := by
  cases spelled with
  | last item => exact ⟨_, rfl⟩
  | next item later => exact ⟨_, rfl⟩

end Spelled

/-- A phrase with one reading: whatever else is read as such a phrase at the same place is the same
expression and ends at the same place. -/
def ReadOnce (phrase : Phrase) (expr : Expr) (text : List Char) : Prop :=
  ∀ {other : Expr} {otherText rest otherRest : List Char}, Spelled phrase other otherText →
    text ++ rest = otherText ++ otherRest → phrase.Ends rest → phrase.Ends otherRest →
      expr = other ∧ rest = otherRest

namespace ReadOnce

section Operands

variable {column : Identifier} {name : String} {value : Value} {text : String}
  {rest otherRest : List Char}

theorem identifier_apart (valid : column.flaw? = none) (simple : value.isSimple)
    (written : NamedDialect.literalText ⟨.standard, name⟩ value = .ok text) :
    (Dialect.standard.identifierText column).toList ++ rest ≠ text.toList ++ otherRest := by
  intro same
  obtain ⟨first, more, begins, quoteOrStar⟩ := Identifier.leads valid
  rw [begins, List.cons_append] at same
  refine Value.not_leads simple ?_
    ((Spelled.literal_begins simple written otherRest).2 _ _ same.symm)
  rcases quoteOrStar with rfl | rfl <;> decide

theorem identifier_ne_opening (valid : column.flaw? = none) :
    (Dialect.standard.identifierText column).toList ++ rest ≠ '(' :: otherRest := by
  obtain ⟨first, more, begins, rfl | rfl⟩ := Identifier.leads valid <;> simp [begins]

theorem literal_ne_opening (simple : value.isSimple)
    (written : NamedDialect.literalText ⟨.standard, name⟩ value = .ok text) :
    text.toList ++ rest ≠ '(' :: otherRest := fun same =>
  Value.not_leads simple (by decide) ((Spelled.literal_begins simple written rest).2 _ _ same)

theorem identifier (valid : column.flaw? = none) :
    ReadOnce .operand (.identifier column) (Dialect.standard.identifierText column).toList := by
  intro other otherText rest otherRest again same ends otherEnds
  cases again with
  | identifier otherValid =>
      obtain ⟨rfl, rests⟩ := Dialect.identifierText_unique rfl ⟨by decide, by decide⟩
        (Identifier.parts_ne_nil valid) (Identifier.parts_ne_nil otherValid) same
        ⟨ends.not_mem (by decide), ends.not_mem (by decide)⟩
        ⟨otherEnds.not_mem (by decide), otherEnds.not_mem (by decide)⟩
      exact ⟨rfl, rests⟩
  | literal simple written => exact absurd same (identifier_apart valid simple written)
  | parenthesized inside => exact absurd same (identifier_ne_opening valid)

theorem literal (simple : value.isSimple)
    (written : NamedDialect.literalText ⟨.standard, name⟩ value = .ok text) :
    ReadOnce .operand (.literal value) text.toList := by
  intro other otherText rest otherRest again same ends otherEnds
  cases again with
  | identifier valid => exact absurd same.symm (identifier_apart valid simple written)
  | literal otherSimple otherWritten =>
      obtain ⟨rfl, rests⟩ :=
        Value.literalText_unique simple otherSimple written otherWritten same ends otherEnds
      exact ⟨rfl, rests⟩
  | parenthesized inside => exact absurd same (literal_ne_opening simple written)

theorem parenthesized {expr : Expr} {text : List Char} (inside : ReadOnce .clause expr text) :
    ReadOnce .operand expr ('(' :: (text ++ [')'])) := by
  intro other otherText rest otherRest again same ends otherEnds
  cases again with
  | identifier valid => exact absurd same.symm (identifier_ne_opening valid)
  | literal simple written => exact absurd same.symm (literal_ne_opening simple written)
  | parenthesized otherInside =>
      simp only [List.cons_append, List.append_assoc, List.cons.injEq, true_and,
        List.nil_append] at same
      obtain ⟨rfl, rests⟩ :=
        inside otherInside same (endsClause_closing rest) (endsClause_closing otherRest)
      exact ⟨rfl, (List.cons.inj rests).2⟩

end Operands

section Tails

variable {left right low high : Expr} {text lowText highText : List Char}

theorem not_endsItem_sign {sign : Sign} (proper : sign ≠ .bitwise .invert)
    (operand : Spelled .operand right text) (more : List Char) :
    ¬EndsItem (sign.text ++ (text ++ more)) := by
  rintro (closed | ⟨connective, later, same⟩)
  · exact not_endsClause_mark (.sign sign) _ closed
  · have marks := Mark.unique (.sign sign) (.connective connective) (by simpa using proper)
      (by simp) same
      (fun _ => (operand.operand_begins more).1) (by simp)
    simp at marks

theorem not_endsItem_range (test : RangeTest) (more : List Char) :
    ¬EndsItem (test.text.toList ++ more) := by
  rintro (closed | ⟨connective, later, same⟩)
  · exact not_endsClause_mark (.range test) _ closed
  · have marks := Mark.unique (.range test) (.connective connective) (by simp) (by simp) same
      (by simp) (by simp)
    simp at marks

theorem sign_apart {sign : Sign} (proper : sign ≠ .bitwise .invert)
    (operand : Spelled .operand right text) (test : RangeTest) (rest more : List Char) :
    sign.text ++ (text ++ rest) ≠ test.text.toList ++ more := by
  intro same
  have marks := Mark.unique (.sign sign) (.range test) (by simpa using proper)
    (by simp) same (fun _ => (operand.operand_begins rest).1) (by simp)
  simp at marks

theorem alone : ReadOnce (.tail left) left [] := by
  intro other otherText rest otherRest again same ends otherEnds
  cases again with
  | alone => exact ⟨rfl, same⟩
  | signed proper operand =>
      rw [List.nil_append, List.append_assoc] at same
      exact absurd (same ▸ ends) (not_endsItem_sign proper operand otherRest)
  | ranged lower upper =>
      rw [List.nil_append, List.append_assoc] at same
      exact absurd (same ▸ ends) (not_endsItem_range _ _)

theorem signed {sign : Sign} (proper : sign ≠ .bitwise .invert)
    (operand : Spelled .operand right text) (once : ReadOnce .operand right text) :
    ReadOnce (.tail left) (sign.expr left right) (sign.text ++ text) := by
  intro other otherText rest otherRest again same ends otherEnds
  rw [List.append_assoc] at same
  cases again with
  | alone =>
      rw [List.nil_append] at same
      exact absurd (same ▸ otherEnds) (not_endsItem_sign proper operand rest)
  | @signed _ _ otherSign _ otherProper otherOperand =>
      rw [List.append_assoc] at same
      obtain ⟨marks, later⟩ := Mark.unique (.sign sign) (.sign otherSign)
        (by simpa using proper) (by simpa using otherProper) same
        (fun _ => (operand.operand_begins rest).1)
        (fun _ => (otherOperand.operand_begins otherRest).1)
      obtain ⟨rfl, rests⟩ := once otherOperand later ends.endsOperand otherEnds.endsOperand
      cases marks
      exact ⟨rfl, rests⟩
  | ranged lower upper =>
      rw [List.append_assoc] at same
      exact absurd same (sign_apart proper operand _ rest _)

theorem ranged {test : RangeTest} (lower : ReadOnce .operand low lowText)
    (upper : ReadOnce .operand high highText) :
    ReadOnce (.tail left) (.range test left low high)
      (test.text.toList ++ (lowText ++ (Connective.and.text.toList ++ highText))) := by
  intro other otherText rest otherRest again same ends otherEnds
  simp only [List.append_assoc] at same
  cases again with
  | alone =>
      rw [List.nil_append] at same
      exact absurd (same ▸ otherEnds) (not_endsItem_range _ _)
  | signed proper operand =>
      rw [List.append_assoc] at same
      exact absurd same.symm (sign_apart proper operand _ otherRest _)
  | @ranged _ _ _ otherTest _ _ otherLower otherUpper =>
      simp only [List.append_assoc] at same
      obtain ⟨marks, later⟩ := Mark.unique (.range test) (.range otherTest)
        (by simp) (by simp) same (by simp) (by simp)
      cases marks
      obtain ⟨rfl, later⟩ := lower otherLower later (endsOperand_mark (.connective .and) _)
        (endsOperand_mark (.connective .and) _)
      obtain ⟨rfl, rests⟩ := upper otherUpper (List.append_cancel_left later) ends.endsOperand
        otherEnds.endsOperand
      exact ⟨rfl, rests⟩

end Tails

section Items

variable {left right expr : Expr} {text later : List Char}

theorem led (operand : Spelled .operand left text) (tail : Spelled (.tail left) expr later)
    (operandOnce : ReadOnce .operand left text) (tailOnce : ReadOnce (.tail left) expr later) :
    ReadOnce .item expr (text ++ later) := by
  intro other otherText rest otherRest again same ends otherEnds
  rw [List.append_assoc] at same
  cases again with
  | led otherOperand otherTail =>
      rw [List.append_assoc] at same
      obtain ⟨rfl, tails⟩ :=
        operandOnce otherOperand same (tail.tail_ends ends) (otherTail.tail_ends otherEnds)
      exact tailOnce otherTail tails ends otherEnds
  | inverted otherOperand => exact absurd same ((operand.operand_begins _).2 _)
  | negated inside => exact absurd same ((operand.operand_begins _).1 _)

theorem inverted (operandOnce : ReadOnce .operand right text) :
    ReadOnce .item (.rightBitwise .invert right) ('~' :: text) := by
  intro other otherText rest otherRest again same ends otherEnds
  cases again with
  | led otherOperand otherTail =>
      rw [List.append_assoc] at same
      exact absurd same.symm ((otherOperand.operand_begins _).2 _)
  | inverted otherOperand =>
      obtain ⟨rfl, rests⟩ := operandOnce otherOperand (List.cons.inj same).2 ends.endsOperand
        otherEnds.endsOperand
      exact ⟨rfl, rests⟩
  | negated inside => simp at same

theorem negated (inside : ReadOnce .clause expr text) :
    ReadOnce .item (.not expr) ('N' :: 'O' :: 'T' :: ' ' :: '(' :: (text ++ [')'])) := by
  intro other otherText rest otherRest again same ends otherEnds
  cases again with
  | led otherOperand otherTail =>
      rw [List.append_assoc] at same
      exact absurd same.symm ((otherOperand.operand_begins _).1 _)
  | inverted otherOperand => simp at same
  | negated otherInside =>
      simp only [List.cons_append, List.append_assoc, List.cons.injEq, true_and,
        List.nil_append] at same
      obtain ⟨rfl, rests⟩ :=
        inside otherInside same (endsClause_closing rest) (endsClause_closing otherRest)
      exact ⟨rfl, (List.cons.inj rests).2⟩

end Items

section Clauses

variable {connective : Connective} {item : Expr} {items : List Expr} {text later rest : List Char}

theorem more_endsItem {expr : Expr} (more : Spelled (.more connective) expr later) :
    EndsItem (later ++ rest) := by
  obtain ⟨behind, rfl⟩ := more.more_begins
  rw [List.append_assoc]
  exact endsItem_connective connective _

theorem more_not_endsClause {expr : Expr} (more : Spelled (.more connective) expr later) :
    ¬EndsClause (later ++ rest) := by
  obtain ⟨behind, rfl⟩ := more.more_begins
  rw [List.append_assoc]
  exact not_endsClause_mark _ _

theorem last (once : ReadOnce .item item text) :
    ReadOnce (.more connective) (.conditions connective [item])
      (connective.text.toList ++ text) := by
  intro other otherText rest otherRest again same ends otherEnds
  rw [List.append_assoc] at same
  cases again with
  | last otherItem =>
      rw [List.append_assoc] at same
      obtain ⟨rfl, rests⟩ := once otherItem (List.append_cancel_left same) ends.endsItem
        otherEnds.endsItem
      exact ⟨rfl, rests⟩
  | next otherItem more =>
      simp only [List.append_assoc] at same
      obtain ⟨_, rests⟩ := once otherItem (List.append_cancel_left same) ends.endsItem
        (more_endsItem more)
      exact absurd (rests ▸ ends) (more_not_endsClause more)

theorem next (more : Spelled (.more connective) (.conditions connective items) later)
    (once : ReadOnce .item item text)
    (moreOnce : ReadOnce (.more connective) (.conditions connective items) later) :
    ReadOnce (.more connective) (.conditions connective (item :: items))
      (connective.text.toList ++ (text ++ later)) := by
  intro other otherText rest otherRest again same ends otherEnds
  simp only [List.append_assoc] at same
  cases again with
  | last otherItem =>
      rw [List.append_assoc] at same
      obtain ⟨_, rests⟩ := once otherItem (List.append_cancel_left same) (more_endsItem more)
        otherEnds.endsItem
      exact absurd (rests ▸ otherEnds) (more_not_endsClause more)
  | next otherItem otherMore =>
      simp only [List.append_assoc] at same
      obtain ⟨rfl, mores⟩ := once otherItem (List.append_cancel_left same) (more_endsItem more)
        (more_endsItem otherMore)
      obtain ⟨lists, rests⟩ := moreOnce otherMore mores ends otherEnds
      cases lists
      exact ⟨rfl, rests⟩

theorem single (once : ReadOnce .item item text) : ReadOnce .clause item text := by
  intro other otherText rest otherRest again same ends otherEnds
  cases again with
  | single otherItem => exact once otherItem same ends.endsItem otherEnds.endsItem
  | several otherItem more =>
      rw [List.append_assoc] at same
      obtain ⟨_, rests⟩ := once otherItem same ends.endsItem (more_endsItem more)
      exact absurd (rests ▸ ends) (more_not_endsClause more)

theorem several (more : Spelled (.more connective) (.conditions connective items) later)
    (once : ReadOnce .item item text)
    (moreOnce : ReadOnce (.more connective) (.conditions connective items) later) :
    ReadOnce .clause (.conditions connective (item :: items)) (text ++ later) := by
  intro other otherText rest otherRest again same ends otherEnds
  rw [List.append_assoc] at same
  cases again with
  | single otherItem =>
      obtain ⟨_, rests⟩ := once otherItem same (more_endsItem more) otherEnds.endsItem
      exact absurd (rests ▸ otherEnds) (more_not_endsClause more)
  | @several otherConnective _ _ _ _ otherItem otherMore =>
      rw [List.append_assoc] at same
      obtain ⟨rfl, mores⟩ := once otherItem same (more_endsItem more) (more_endsItem otherMore)
      have connectives : connective = otherConnective := by
        obtain ⟨behind, rfl⟩ := more.more_begins
        obtain ⟨otherBehind, rfl⟩ := otherMore.more_begins
        rw [List.append_assoc, List.append_assoc] at mores
        have marks := Mark.unique (.connective connective) (.connective otherConnective)
          (by simp) (by simp) mores (by simp) (by simp)
        simpa using marks.1
      subst connectives
      obtain ⟨lists, rests⟩ := moreOnce otherMore mores ends otherEnds
      cases lists
      exact ⟨rfl, rests⟩

end Clauses

end ReadOnce

/-- Every phrase has one reading. -/
theorem Spelled.readOnce {phrase : Phrase} {expr : Expr} {text : List Char}
    (spelled : Spelled phrase expr text) : ReadOnce phrase expr text := by
  induction spelled with
  | identifier valid => exact ReadOnce.identifier valid
  | literal simple written => exact ReadOnce.literal simple written
  | parenthesized inside once => exact ReadOnce.parenthesized once
  | alone => exact ReadOnce.alone
  | signed proper operand once => exact ReadOnce.signed proper operand once
  | ranged lower upper lowerOnce upperOnce => exact ReadOnce.ranged lowerOnce upperOnce
  | led operand tail operandOnce tailOnce => exact ReadOnce.led operand tail operandOnce tailOnce
  | inverted operand once => exact ReadOnce.inverted once
  | negated inside once => exact ReadOnce.negated once
  | last item once => exact ReadOnce.last once
  | next item more once moreOnce => exact ReadOnce.next more once moreOnce
  | single item once => exact ReadOnce.single once
  | several item more once moreOnce => exact ReadOnce.several more once moreOnce

theorem Spelled.clause_unique {left right : Expr} {text : List Char}
    (first : Spelled .clause left text) (second : Spelled .clause right text) : left = right := by
  have whole : EndsClause [] := by simp [EndsClause]
  exact (first.readOnce second rfl whole whole).1

end SqlDialects
