import SqlDialects.Proofs.Literals

/-!
The surface of a text: the characters that stand in no quotes and in no parentheses. A text whose
quotes and parentheses are closed keeps its surface wherever it stands on the surface of a longer
one, and shows nothing of it behind a parenthesis.
-/

namespace SqlDialects

def isQuoteMark (character : Char) : Bool :=
  character = '\'' || character = '"' || character = '\x60'

/-- Where the reader of a text stands: in so many parentheses and, inside of quotes, behind which
mark and whether behind a backslash. -/
inductive Place where
  | outside (depth : Nat)
  | quoted (mark : Char) (depth : Nat)
  | escaped (mark : Char) (depth : Nat)
deriving DecidableEq, Repr

namespace Place

/-- The place behind one more character. A backslash counts in texts only, and only where the
dialect has it; a parenthesis is never closed before it is opened. -/
def next? (backslash : Bool) : Place → Char → Option Place
  | .outside depth, character =>
      if isQuoteMark character then some (.quoted character depth)
      else if character = '(' then some (.outside (depth + 1))
      else if character = ')' then
        match depth with
        | 0 => none
        | outer + 1 => some (.outside outer)
      else some (.outside depth)
  | .quoted mark depth, character =>
      if character = mark then some (.outside depth)
      else if backslash && character = '\\' && mark ≠ '\x60' then some (.escaped mark depth)
      else some (.quoted mark depth)
  | .escaped mark depth, _ => some (.quoted mark depth)

def deeper : Place → Place
  | .outside depth => .outside (depth + 1)
  | .quoted mark depth => .quoted mark (depth + 1)
  | .escaped mark depth => .escaped mark (depth + 1)

end Place

/-- Reads a text from a place: what of it is on the surface, the marks and parentheses around the
rest included, and the place behind it. -/
def walk (backslash : Bool) : Place → List Char → Option (List Char × Place)
  | place, [] => some ([], place)
  | place, character :: rest =>
      (place.next? backslash character).bind fun later =>
        (walk backslash later rest).map
          (Prod.map ((if place = .outside 0 ∨ later = .outside 0 then [character] else []) ++ ·) id)

/-- The surface of a text, if its quotes and parentheses are closed. -/
def surface? (backslash : Bool) (text : List Char) : Option (List Char) :=
  match walk backslash (.outside 0) text with
  | some (shown, .outside 0) => some shown
  | _ => none

section Walking

variable {backslash : Bool}

theorem surface?_eq_some_iff {text shown : List Char} :
    surface? backslash text = some shown ↔
      walk backslash (.outside 0) text = some (shown, .outside 0) := by
  unfold surface?
  split
  · next same => simp [same]
  · next other =>
    simp only [reduceCtorEq, false_iff]
    exact fun same => other shown same

theorem walk_append {place middle later : Place} {first second shown more : List Char}
    (start : walk backslash place first = some (shown, middle))
    (rest : walk backslash middle second = some (more, later)) :
    walk backslash place (first ++ second) = some (shown ++ more, later) := by
  induction first generalizing place shown with
  | nil =>
      obtain ⟨rfl, rfl⟩ : [] = shown ∧ place = middle := by simpa [walk] using start
      simpa using rest
  | cons character others ih =>
      rw [walk, Option.bind_eq_some_iff] at start
      obtain ⟨following, stepped, start⟩ := start
      obtain ⟨⟨behind, reached⟩, walked, same⟩ := Option.map_eq_some_iff.mp start
      obtain ⟨rfl, rfl⟩ := Prod.mk.inj same
      rw [List.cons_append, walk, stepped, Option.bind_some, ih walked]
      simp

theorem next?_deeper {place later : Place} {character : Char}
    (stepped : place.next? backslash character = some later) :
    place.deeper.next? backslash character = some later.deeper := by
  cases place with
  | outside depth => cases depth <;> grind [Place.next?, Place.deeper]
  | quoted mark depth => grind [Place.next?, Place.deeper]
  | escaped mark depth => grind [Place.next?, Place.deeper]

theorem deeper_ne_outside (place : Place) : place.deeper ≠ .outside 0 := by
  cases place <;> simp [Place.deeper]

theorem walk_deeper {place later : Place} {text shown : List Char}
    (walked : walk backslash place text = some (shown, later)) :
    walk backslash place.deeper text = some ([], later.deeper) := by
  induction text generalizing place shown with
  | nil =>
      obtain ⟨rfl, rfl⟩ : [] = shown ∧ place = later := by simpa [walk] using walked
      rfl
  | cons character rest ih =>
      rw [walk, Option.bind_eq_some_iff] at walked
      obtain ⟨following, stepped, walked⟩ := walked
      obtain ⟨⟨behind, reached⟩, read, same⟩ := Option.map_eq_some_iff.mp walked
      obtain ⟨rfl, rfl⟩ := Prod.mk.inj same
      rw [walk, next?_deeper stepped, Option.bind_some, ih read]
      simp [deeper_ne_outside]

end Walking

section Surfaces

variable {backslash : Bool} {first second text shown more : List Char}

@[simp] theorem surface?_nil : surface? backslash [] = some [] :=
  rfl

theorem surface?_append (start : surface? backslash first = some shown)
    (rest : surface? backslash second = some more) :
    surface? backslash (first ++ second) = some (shown ++ more) := by
  rw [surface?_eq_some_iff] at start rest ⊢
  exact walk_append start rest

theorem surface?_parenthesized (inside : surface? backslash text = some shown) :
    surface? backslash ('(' :: (text ++ [')'])) = some ['(', ')'] := by
  rw [surface?_eq_some_iff] at inside ⊢
  have opening : walk backslash (.outside 0) ['('] = some (['('], .outside 1) := rfl
  have closing : walk backslash (.outside 1) [')'] = some ([')'], .outside 0) := rfl
  exact walk_append opening (walk_append (walk_deeper inside) closing)

theorem exists_surface?_cons {character : Char}
    (closed : surface? backslash (character :: text) = some shown) :
    ∃ rest, shown = character :: rest := by
  rw [surface?_eq_some_iff, walk, Option.bind_eq_some_iff] at closed
  obtain ⟨later, -, walked⟩ := closed
  obtain ⟨⟨rest, place⟩, -, same⟩ := Option.map_eq_some_iff.mp walked
  exact ⟨rest, by simpa using (congrArg Prod.fst same).symm⟩

def isOrdinary (character : Char) : Bool :=
  !isQuoteMark character && character ≠ '(' && character ≠ ')'

theorem surface?_of_ordinary (ordinary : text.all isOrdinary) :
    surface? backslash text = some text := by
  rw [surface?_eq_some_iff]
  induction text with
  | nil => rfl
  | cons character rest ih =>
      rw [List.all_cons, Bool.and_eq_true] at ordinary
      obtain ⟨here, later⟩ := ordinary
      simp only [isOrdinary, Bool.and_eq_true, Bool.not_eq_true', decide_eq_true_eq] at here
      obtain ⟨⟨unquoted, unopened⟩, unclosed⟩ := here
      have stepped : (Place.outside 0).next? backslash character = some (.outside 0) := by
        simp [Place.next?, unquoted, unopened, unclosed]
      rw [walk, stepped, Option.bind_some, ih later]
      simp

end Surfaces

section Quoting

theorem walk_doubleQuote {backslash : Bool} {mark : Char} (marks : isQuoteMark mark)
    (unescaped : backslash → mark = '\x60') (content : List Char) :
    ∃ shown, walk backslash (.quoted mark 0) (Dialect.doubleQuote mark content ++ [mark]) =
      some (shown, .outside 0) ∧ ∀ character ∈ shown, character = mark := by
  induction content with
  | nil => exact ⟨[mark], by simp [Dialect.doubleQuote, walk, Place.next?], by simp⟩
  | cons character rest ih =>
      obtain ⟨shown, walked, quotes⟩ := ih
      by_cases same : character = mark
      · refine ⟨mark :: mark :: shown, ?_, by simpa using quotes⟩
        simp [Dialect.doubleQuote, same, walk, Place.next?, marks, walked]
      · have stepped :
            (Place.quoted mark 0).next? backslash character = some (.quoted mark 0) := by
          cases backslash with
          | false => simp [Place.next?, same]
          | true => simpa [Place.next?, same] using fun _ => unescaped rfl
        refine ⟨shown, ?_, quotes⟩
        rw [Dialect.doubleQuote, if_neg same, List.cons_append, walk, stepped, Option.bind_some,
          walked]
        simp

theorem surface?_quoted {backslash : Bool} {mark : Char} (marks : isQuoteMark mark)
    (unescaped : backslash → mark = '\x60') (content : List Char) :
    ∃ shown, surface? backslash (mark :: (Dialect.doubleQuote mark content ++ [mark])) =
      some shown ∧ ∀ character ∈ shown, character = mark := by
  obtain ⟨shown, walked, quotes⟩ := walk_doubleQuote marks unescaped content
  refine ⟨mark :: shown, ?_, by simpa using quotes⟩
  rw [surface?_eq_some_iff, walk]
  simp [Place.next?, marks, walked]

theorem walk_within {backslash : Bool} {mark : Char} {content : List Char}
    (others : ∀ character ∈ content, character ≠ mark ∧ (backslash → character ≠ '\\')) :
    walk backslash (.quoted mark 0) content = some ([], .quoted mark 0) := by
  induction content with
  | nil => rfl
  | cons character rest ih =>
      obtain ⟨⟨different, unescaped⟩, later⟩ := List.forall_mem_cons.mp others
      have stepped : (Place.quoted mark 0).next? backslash character = some (.quoted mark 0) := by
        cases backslash with
        | false => simp [Place.next?, different]
        | true => simp [Place.next?, different, unescaped rfl]
      rw [walk, stepped, Option.bind_some, ih later]
      simp

theorem surface?_within {backslash : Bool} {mark : Char} (marks : isQuoteMark mark)
    {content : List Char}
    (others : ∀ character ∈ content, character ≠ mark ∧ (backslash → character ≠ '\\')) :
    surface? backslash (mark :: (content ++ [mark])) = some [mark, mark] := by
  have opening : walk backslash (.outside 0) [mark] = some ([mark], .quoted mark 0) := by
    simp [walk, Place.next?, marks]
  have closing : walk backslash (.quoted mark 0) [mark] = some ([mark], .outside 0) := by
    simp [walk, Place.next?]
  exact surface?_eq_some_iff.mpr
    (walk_append opening (walk_append (walk_within others) closing))

end Quoting

/-- Letters, the underline, the dollar sign and whatever is not ASCII. A digit is none of them,
since a keyword may stand right behind a number. -/
def isWordCharacter (character : Char) : Bool :=
  character.isAlpha || character = '_' || character = '$' || 128 ≤ character.toNat

def words (text : List Char) : List (List Char) :=
  text.splitOnP fun character => !isWordCharacter character

def MentionsOr (text : List Char) : Prop :=
  ∃ word ∈ words text, word.map Char.toUpper = ['O', 'R']

instance (text : List Char) : Decidable (MentionsOr text) :=
  inferInstanceAs (Decidable (∃ word ∈ words text, word.map Char.toUpper = ['O', 'R']))

section Words

variable {first second text : List Char}

theorem mentionsOr_append_cons {separator : Char} (apart : isWordCharacter separator = false) :
    MentionsOr (first ++ separator :: second) ↔ MentionsOr first ∨ MentionsOr second := by
  have split : words (first ++ separator :: second) = words first ++ words second :=
    List.splitOnP_append_cons first second (by simp [apart])
  simp only [MentionsOr, split, List.mem_append, or_and_right, exists_or]

theorem not_mentionsOr_nil : ¬MentionsOr [] := by
  decide

theorem mentionsOr_cons {separator : Char} (apart : isWordCharacter separator = false) :
    MentionsOr (separator :: text) ↔ MentionsOr text := by
  rw [← List.nil_append (separator :: text), mentionsOr_append_cons apart]
  simp [not_mentionsOr_nil]

theorem mem_of_mem_words {word : List Char} {character : Char} (listed : word ∈ words text)
    (member : character ∈ word) : character ∈ text := by
  induction text generalizing word with
  | nil => simp_all [words]
  | cons first rest ih =>
      rw [words, List.splitOnP_cons_eq_if_modifyHead] at listed
      split at listed
      · rcases List.mem_cons.mp listed with rfl | later
        · simp at member
        · exact List.mem_cons_of_mem _ (ih later member)
      · change word ∈ (words rest).modifyHead (List.cons first) at listed
        cases same : words rest with
        | nil => simp [same] at listed
        | cons head others =>
            rw [same, List.modifyHead_cons] at listed
            rcases List.mem_cons.mp listed with rfl | later
            · rcases List.mem_cons.mp member with rfl | inside
              · exact List.mem_cons_self
              · exact List.mem_cons_of_mem _ (ih (by simp [same]) inside)
            · exact List.mem_cons_of_mem _ (ih (by simp [same, later]) member)

theorem not_mentionsOr_of_letters (others : ∀ character ∈ text, character.toUpper ≠ 'O') :
    ¬MentionsOr text := by
  rintro ⟨word, listed, same⟩
  have letter : 'O' ∈ word.map Char.toUpper := by simp [same]
  obtain ⟨character, member, upper⟩ := List.mem_map.mp letter
  exact others character (mem_of_mem_words listed member) upper

end Words

def IsClosed (backslash : Bool) (text : List Char) : Prop :=
  (surface? backslash text).isSome

/-- Whether a text has an `OR` in no quotes and in no parentheses. -/
def HasBareOr (backslash : Bool) (text : List Char) : Prop :=
  ∃ shown ∈ surface? backslash text, MentionsOr shown

instance (backslash : Bool) (text : List Char) : Decidable (IsClosed backslash text) :=
  inferInstanceAs (Decidable ((surface? backslash text).isSome = true))

instance (backslash : Bool) (text : List Char) : Decidable (HasBareOr backslash text) :=
  inferInstanceAs (Decidable (∃ shown ∈ surface? backslash text, MentionsOr shown))

section Closed

variable {backslash : Bool} {first second text shown : List Char}

theorem isClosed_nil : IsClosed backslash [] :=
  rfl

theorem isClosed_of_surface? (known : surface? backslash text = some shown) :
    IsClosed backslash text := by
  simp [IsClosed, known]

theorem hasBareOr_iff (known : surface? backslash text = some shown) :
    HasBareOr backslash text ↔ MentionsOr shown := by
  simp [HasBareOr, known]

theorem IsClosed.append (start : IsClosed backslash first) (rest : IsClosed backslash second) :
    IsClosed backslash (first ++ second) := by
  obtain ⟨shown, start⟩ := Option.isSome_iff_exists.mp start
  obtain ⟨more, rest⟩ := Option.isSome_iff_exists.mp rest
  exact isClosed_of_surface? (surface?_append start rest)

theorem IsClosed.parenthesized (inside : IsClosed backslash text) :
    IsClosed backslash ('(' :: (text ++ [')'])) := by
  obtain ⟨shown, inside⟩ := Option.isSome_iff_exists.mp inside
  exact isClosed_of_surface? (surface?_parenthesized inside)

theorem IsClosed.not_hasBareOr_parenthesized (inside : IsClosed backslash text) :
    ¬HasBareOr backslash ('(' :: (text ++ [')'])) := by
  obtain ⟨shown, inside⟩ := Option.isSome_iff_exists.mp inside
  rw [hasBareOr_iff (surface?_parenthesized inside)]
  decide

/-- No word runs over from one closed text to another that begins with none. -/
theorem hasBareOr_append (start : IsClosed backslash first) (rest : IsClosed backslash second)
    (apart : ∀ character ∈ second.head?, isWordCharacter character = false) :
    HasBareOr backslash (first ++ second) ↔
      HasBareOr backslash first ∨ HasBareOr backslash second := by
  obtain ⟨shown, start⟩ := Option.isSome_iff_exists.mp start
  obtain ⟨more, rest⟩ := Option.isSome_iff_exists.mp rest
  rw [hasBareOr_iff (surface?_append start rest), hasBareOr_iff start, hasBareOr_iff rest]
  cases second with
  | nil =>
      obtain rfl : [] = more := by simpa using rest
      simp [not_mentionsOr_nil]
  | cons character others =>
      have between : isWordCharacter character = false := apart character (by simp)
      obtain ⟨later, rfl⟩ := exists_surface?_cons rest
      rw [mentionsOr_append_cons between, mentionsOr_cons between]

theorem isClosed_of_ordinary (ordinary : text.all isOrdinary) :
    IsClosed backslash text :=
  isClosed_of_surface? (surface?_of_ordinary ordinary)

theorem hasBareOr_of_ordinary (ordinary : text.all isOrdinary) :
    HasBareOr backslash text ↔ MentionsOr text :=
  hasBareOr_iff (surface?_of_ordinary ordinary)

theorem IsClosed.cons {character : Char} (ordinary : isOrdinary character)
    (rest : IsClosed backslash text) : IsClosed backslash (character :: text) := by
  have single : IsClosed backslash [character] :=
    isClosed_of_ordinary (by simpa using ordinary)
  exact single.append rest

theorem hasBareOr_cons {character : Char} (ordinary : isOrdinary character)
    (apart : isWordCharacter character = false) (rest : IsClosed backslash text) :
    HasBareOr backslash (character :: text) ↔ HasBareOr backslash text := by
  obtain ⟨shown, known⟩ := Option.isSome_iff_exists.mp rest
  have single : surface? backslash [character] = some [character] :=
    surface?_of_ordinary (by simpa using ordinary)
  have whole : surface? backslash (character :: text) = some (character :: shown) :=
    surface?_append single known
  rw [hasBareOr_iff whole, hasBareOr_iff known, mentionsOr_cons apart]

theorem hasBareOr_between {word : List Char} (start : IsClosed backslash first)
    (middle : IsClosed backslash word) (rest : IsClosed backslash second)
    (silent : ¬HasBareOr backslash word) :
    HasBareOr backslash (first ++ ' ' :: (word ++ ' ' :: second)) ↔
      HasBareOr backslash first ∨ HasBareOr backslash second := by
  have behind : IsClosed backslash (' ' :: second) := rest.cons rfl
  have later : IsClosed backslash (word ++ ' ' :: second) := middle.append behind
  rw [hasBareOr_append start (later.cons rfl) (by simp [isWordCharacter]),
    hasBareOr_cons rfl rfl later,
    hasBareOr_append middle behind (by simp [isWordCharacter]), hasBareOr_cons rfl rfl rest]
  simp [silent]

end Closed

end SqlDialects
