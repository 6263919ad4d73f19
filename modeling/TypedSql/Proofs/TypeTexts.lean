import TypedSql.Declaration.Descriptor
/-!
# Paths to types

The type of a declared field is read from its text. Whether the field may be missing depends on the
last name of the path to its type, however the path begins and whatever stands in its brackets.

## Main definitions

- `TypeText.IsBalanced`: a text whose brackets match.
- `TypeText.PathSegment`, `TypeText.TypePath`: how the path to a type is spelled.
- `TypeText.TypePath.option`: the type `Option` of another, by a path.

## Main statements

- `TypeText.untilClosed_append`, `TypeText.firstArgument_append`: balanced text is passed over.
- `TypeText.segmentsFrom?_text`: a path is read as the names and arguments it is made of.
- `TypeText.optionArgument?_option`, `TypeText.optionArgument?_eq_none`: which paths lead to an
  `Option`.
-/

namespace TypedSql.TypeText

/-- The characters that end something, and the one that may make the head of an arrow of one. -/
def isMark (c : Char) : Bool :=
  c = '>' || c = ')' || c = ']' || c = '\x7d' || c = '-'

/-- A text whose brackets match. Outside of all brackets there are commas if `commas` says so. -/
inductive IsBalanced : Bool → List Char → Prop where
  | nil {commas : Bool} : IsBalanced commas []
  | char {commas : Bool} {c : Char} {rest : List Char} (hclosing : closing? c = none)
      (hmark : isMark c = false) (hcomma : c = ',' → commas) :
      IsBalanced commas rest → IsBalanced commas (c :: rest)
  | arrow {commas : Bool} {rest : List Char} :
      IsBalanced commas rest → IsBalanced commas ('-' :: '>' :: rest)
  | group {commas : Bool} {c close : Char} {inner rest : List Char}
      (hclosing : closing? c = some close) : IsBalanced true inner → IsBalanced commas rest →
        IsBalanced commas (c :: (inner ++ close :: rest))

theorem IsBalanced.append {commas : Bool} {text more : List Char} (h : IsBalanced commas text)
    (hmore : IsBalanced commas more) : IsBalanced commas (text ++ more) := by
  induction h with
  | nil => exact hmore
  | char hclosing hmark hcomma _ ih => exact .char hclosing hmark hcomma (ih hmore)
  | arrow _ ih => exact .arrow (ih hmore)
  | group hclosing hinner _ _ ih =>
    rw [List.cons_append, List.append_assoc, List.cons_append]
    exact .group hclosing hinner (ih hmore)

theorem IsBalanced.weaken {commas : Bool} {text : List Char} (h : IsBalanced commas text) :
    IsBalanced true text := by
  induction h with
  | nil => exact .nil
  | char hclosing hmark _ _ ih => exact .char hclosing hmark (fun _ => rfl) ih
  | arrow _ ih => exact .arrow ih
  | group hclosing hinner _ _ ih => exact .group hclosing hinner ih

/-- What closes a bracket opens none. -/
theorem closing?_cases {c close : Char} (h : closing? c = some close) :
    c ≠ '-' ∧ close ≠ '-' ∧ closing? close = none ∧ c ≠ ',' ∧ close ≠ ',' := by
  obtain ⟨rfl, rfl⟩ | ⟨rfl, rfl⟩ | ⟨rfl, rfl⟩ | ⟨rfl, rfl⟩ :
      c = '<' ∧ close = '>' ∨ c = '(' ∧ close = ')' ∨ c = '[' ∧ close = ']' ∨
        c = '\x7b' ∧ close = '\x7d' := by
    grind [closing?]
  all_goals decide

theorem isMark_of_closing? {c close : Char} (h : closing? c = some close) : isMark close := by
  grind [closing?, isMark]

section Reading

/-- Reads on behind a text. -/
def pushed (text : List Char) (r? : Option (List Char × List Char)) :
    Option (List Char × List Char) :=
  r?.map fun (inner, after) => (text ++ inner, after)

theorem untilClosed_arrow (pending rest : List Char) :
    untilClosed pending ('-' :: '>' :: rest) = pushed ['-', '>'] (untilClosed pending rest) := by
  rw [untilClosed]
  rfl

theorem untilClosed_open {c close : Char} (h : closing? c = some close) (pending rest : List Char) :
    untilClosed pending (c :: rest) = pushed [c] (untilClosed (close :: pending) rest) := by
  have hdash : c ≠ '-' := (closing?_cases h).1
  cases pending with
  | nil =>
    rw [untilClosed, h]
    · rfl
    · exact fun _ hc _ => hdash hc
  | cons close' outer =>
    rw [untilClosed, h]
    · rfl
    · exact fun _ hc _ => hdash hc

theorem untilClosed_close {close : Char} (hclosing : closing? close = none) (hdash : close ≠ '-')
    (outer rest : List Char) :
    untilClosed (close :: outer) (close :: rest) =
      if outer = [] then some ([], rest) else pushed [close] (untilClosed outer rest) := by
  rw [untilClosed, hclosing]
  · simp
    rfl
  · exact fun _ hc _ => hdash hc

theorem untilClosed_char {c close : Char} (hclosing : closing? c = none) (hdash : c ≠ '-')
    (hne : c ≠ close) (outer rest : List Char) :
    untilClosed (close :: outer) (c :: rest) = pushed [c] (untilClosed (close :: outer) rest) := by
  rw [untilClosed, hclosing]
  · simp [hne]
    rfl
  · exact fun _ hc _ => hdash hc

theorem pushed_pushed (first second : List Char) (r? : Option (List Char × List Char)) :
    pushed first (pushed second r?) = pushed (first ++ second) r? := by
  cases r? <;> simp [pushed]

/-- Balanced text closes nothing that is open before it. -/
theorem untilClosed_append {commas : Bool} {text : List Char} (h : IsBalanced commas text)
    {pending : List Char} (hpending : ∀ close ∈ pending, isMark close) (hne : pending ≠ [])
    (rest : List Char) :
    untilClosed pending (text ++ rest) = pushed text (untilClosed pending rest) := by
  induction h generalizing pending rest with
  | nil => cases hrest : untilClosed pending rest <;> simp [pushed, hrest]
  | @char _ c text hclosing hmark hcomma _ ih =>
    obtain ⟨close, outer, rfl⟩ := List.exists_cons_of_ne_nil hne
    have hc : c ≠ close := by
      rintro rfl
      simp [hpending c List.mem_cons_self] at hmark
    have hdash : c ≠ '-' := by
      rintro rfl
      cases hmark
    rw [List.cons_append, untilClosed_char hclosing hdash hc, ih hpending hne, pushed_pushed]
    rfl
  | @arrow _ text _ ih =>
    rw [List.cons_append, List.cons_append, untilClosed_arrow, ih hpending hne, pushed_pushed]
    rfl
  | @group _ c close inner text hclosing _ _ ihinner ih =>
    -- the text in the brackets is read with one more of them open
    obtain ⟨-, hdash, hnone, -, -⟩ := closing?_cases hclosing
    have hopen : ∀ x ∈ close :: pending, isMark x :=
      List.forall_mem_cons.2 ⟨isMark_of_closing? hclosing, hpending⟩
    rw [List.cons_append, List.append_assoc, List.cons_append, untilClosed_open hclosing,
      ihinner hopen (by simp), untilClosed_close hnone hdash, if_neg hne, ih hpending hne,
      pushed_pushed, pushed_pushed, pushed_pushed]
    simp

theorem firstArgument_append {commas : Bool} {text : List Char} (h : IsBalanced commas text)
    {pending : List Char} (hpending : ∀ close ∈ pending, isMark close)
    (hcommas : commas → pending ≠ []) (rest : List Char) :
    firstArgument pending (text ++ rest) = text ++ firstArgument pending rest := by
  induction h generalizing pending rest with
  | nil => rfl
  | @char commas c text hclosing hmark hcomma _ ih =>
    have hdash : c ≠ '-' := by
      rintro rfl
      cases hmark
    have hstop : ¬ (c = ',' ∧ pending = []) := by
      rintro ⟨rfl, hnil⟩
      exact hcommas (hcomma rfl) hnil
    have hkept : (if pending.head? = some c then pending.tail else pending) = pending := by
      refine if_neg fun hhead => ?_
      simp [hpending c (List.mem_of_head? hhead)] at hmark
    rw [List.cons_append, firstArgument, if_neg hstop, hclosing]
    · simp only [hkept, ih hpending hcommas, List.cons_append]
    · exact fun _ hc _ => hdash hc
  | @arrow _ text _ ih =>
    rw [List.cons_append, List.cons_append, firstArgument, ih hpending hcommas]
    rfl
  | @group _ c close inner text hclosing _ _ ihinner ih =>
    obtain ⟨hdash, hdash', hnone, hcomma, hcomma'⟩ := closing?_cases hclosing
    have hopen : ∀ x ∈ close :: pending, isMark x :=
      List.forall_mem_cons.2 ⟨isMark_of_closing? hclosing, hpending⟩
    rw [List.cons_append, List.append_assoc, List.cons_append, firstArgument,
      if_neg fun h => hcomma h.1, hclosing]
    · simp only [ihinner hopen (by simp)]
      rw [firstArgument, if_neg fun h => hcomma' h.1, hnone]
      · simp [ih hpending hcommas]
      · exact fun _ hc _ => hdash' hc
    · exact fun _ hc _ => hdash hc

end Reading

section Paths

/-- A name that is not reserved for a truth value. -/
structure IsName (name : List Char) : Prop where
  ne_nil : name ≠ []
  isWord : ∀ c ∈ name, isWord c
  isDigit : ∀ c ∈ name.head?, c.isDigit = false
  ne_true : name ≠ "true".toList
  ne_false : name ≠ "false".toList

/-- A part of a path as it is spelled, with a colon pair before its arguments or without one. -/
structure PathSegment where
  segment : Segment
  colons : Bool := false
  isName : IsName segment.name
  arguments_isBalanced : ∀ arguments ∈ segment.arguments?, IsBalanced true arguments

/-- What follows the name. -/
def PathSegment.tail (s : PathSegment) : List Char :=
  match s.segment.arguments? with
  | none => []
  | some arguments => (if s.colons then [':', ':'] else []) ++ '<' :: (arguments ++ ['>'])

def PathSegment.text (s : PathSegment) : List Char := s.segment.name ++ s.tail

/-- How a path begins: with a name, with a colon pair, or with a type in angle brackets. -/
inductive PathStart where
  | name
  | root
  | within (type : List Char) (h : IsBalanced true type)

def PathStart.text : PathStart → List Char
  | name => []
  | root => [':', ':']
  | within type _ => '<' :: (type ++ ['>', ':', ':'])

/-- The path to a type as it is spelled. -/
structure TypePath where
  start : PathStart := .name
  before : List PathSegment := []
  last : PathSegment

/-- The parts of a path, with colon pairs between them. -/
def pathText (before : List PathSegment) (last : PathSegment) : List Char :=
  before.foldr (fun s text => s.text ++ ':' :: ':' :: text) last.text

def TypePath.text (p : TypePath) : List Char := p.start.text ++ pathText p.before p.last

/-- A text before which a name ends. -/
def EndsName (rest : List Char) : Prop := ∀ c ∈ rest.head?, isWord c = false

theorem endsName_of_colons {rest : List Char}
    (h : rest = [] ∨ ∃ more, rest = ':' :: ':' :: more) : EndsName rest := by
  have hcolon : isWord ':' = false := by decide
  obtain rfl | ⟨more, rfl⟩ := h
  · simp [EndsName]
  · simpa [EndsName] using hcolon

variable (s : PathSegment)

theorem PathSegment.endsName_tail {rest : List Char} (h : EndsName rest) :
    EndsName (s.tail ++ rest) := by
  unfold PathSegment.tail
  cases s.segment.arguments? with
  | none => simpa using h
  | some arguments =>
    cases s.colons with
    | false =>
      have hbracket : isWord '<' = false := by decide
      simpa [EndsName] using hbracket
    | true => exact endsName_of_colons (.inr ⟨_, rfl⟩)

/-- What follows a name begins with arguments, unless there are none. -/
theorem PathSegment.tail_append (rest : List Char) :
    s.tail ++ rest = rest ∨ (∃ more, s.tail ++ rest = ':' :: ':' :: more) ∨
      ∃ arguments, IsBalanced true arguments ∧
        s.tail ++ rest = '<' :: (arguments ++ '>' :: rest) := by
  unfold PathSegment.tail
  cases harguments : s.segment.arguments? with
  | none => exact .inl rfl
  | some arguments =>
    cases s.colons with
    | false =>
      exact .inr (.inr ⟨arguments, s.arguments_isBalanced arguments harguments, by simp⟩)
    | true => exact .inr (.inl ⟨_, rfl⟩)

theorem takeWhile_name {name rest : List Char} (h : ∀ c ∈ name, isWord c) (hrest : EndsName rest) :
    (name ++ rest).takeWhile isWord = name ∧ (name ++ rest).dropWhile isWord = rest := by
  rw [List.takeWhile_append_of_pos h, List.dropWhile_append_of_pos h]
  cases rest with
  | nil => simp
  | cons c rest =>
    have hc : isWord c = false := hrest c rfl
    simp [hc]

theorem untilClosed_arguments {arguments : List Char} (h : IsBalanced true arguments)
    (rest : List Char) : untilClosed ['>'] (arguments ++ '>' :: rest) = some (arguments, rest) := by
  rw [untilClosed_append h (by simp [isMark]) (by simp), untilClosed_close rfl (by decide),
    if_pos rfl]
  simp [pushed]

/-- What is read behind a part of a path. -/
def afterSegment? (fuel : Nat) (segment : Segment) (rest : List Char) : Option (List Segment) :=
  match rest with
  | [] => some [segment]
  | ':' :: ':' :: more => (segmentsFrom? fuel more).map (segment :: ·)
  | _ => none

theorem segmentsFrom?_segment (fuel : Nat) {rest : List Char}
    (hrest : rest = [] ∨ ∃ c more, rest = ':' :: ':' :: c :: more ∧ isWord c) :
    segmentsFrom? (fuel + 1) (s.text ++ rest) = afterSegment? fuel s.segment rest := by
  have hends : EndsName rest :=
    endsName_of_colons (hrest.imp_right fun ⟨c, more, h, _⟩ => ⟨c :: more, h⟩)
  obtain ⟨hname, htail⟩ := takeWhile_name s.isName.isWord (s.endsName_tail hends)
  rw [segmentsFrom?, PathSegment.text, List.append_assoc, hname, htail, if_neg s.isName.ne_nil]
  obtain ⟨⟨name, arguments?⟩, colons, -, hbalanced⟩ := s
  cases arguments? with
  | none =>
    obtain rfl | ⟨c, more, rfl, hc⟩ := hrest
    · rfl
    · have hbracket : c ≠ '<' := by
        rintro rfl
        cases hc
      simp [PathSegment.tail, hbracket, afterSegment?]
  | some arguments =>
    have hclosed := untilClosed_arguments (hbalanced arguments rfl) rest
    cases colons with
    | false =>
      simp [PathSegment.tail, hclosed]
      rfl
    | true =>
      simp [PathSegment.tail, hclosed]
      rfl

theorem exists_pathText (before : List PathSegment) (last : PathSegment) :
    ∃ c more, pathText before last = c :: more ∧ isWord c := by
  have hsegment : ∀ (s : PathSegment) (rest : List Char),
      ∃ c more, s.text ++ rest = c :: more ∧ isWord c := by
    intro s rest
    obtain ⟨c, name, hname⟩ := List.exists_cons_of_ne_nil s.isName.ne_nil
    refine ⟨c, name ++ s.tail ++ rest, ?_, s.isName.isWord c (by simp [hname])⟩
    simp [PathSegment.text, hname]
  cases before with
  | nil => simpa [pathText] using hsegment last []
  | cons s before => exact hsegment s _

/-- A path is read as the names and arguments it is made of. -/
theorem segmentsFrom?_text (before : List PathSegment) (last : PathSegment) {fuel : Nat}
    (hfuel : before.length < fuel) :
    segmentsFrom? fuel (pathText before last) = some ((before ++ [last]).map (·.segment)) := by
  induction before generalizing fuel with
  | nil =>
    obtain ⟨fuel, rfl⟩ := Nat.exists_eq_add_one_of_ne_zero (Nat.ne_of_gt hfuel)
    simpa [pathText, afterSegment?] using segmentsFrom?_segment last fuel (.inl rfl)
  | cons s before ih =>
    obtain ⟨fuel, rfl⟩ := Nat.exists_eq_add_one_of_ne_zero (Nat.ne_of_gt (Nat.zero_lt_of_lt hfuel))
    obtain ⟨c, more, hmore, hc⟩ := exists_pathText before last
    have hrest : ∃ c more', ':' :: ':' :: pathText before last = ':' :: ':' :: c :: more' ∧
        isWord c := ⟨c, more, by rw [hmore], hc⟩
    show segmentsFrom? (fuel + 1) (s.text ++ ':' :: ':' :: pathText before last) = _
    rw [segmentsFrom?_segment s fuel (.inr hrest), afterSegment?, ih (by simpa using hfuel)]
    rfl

theorem length_lt_pathText (before : List PathSegment) (last : PathSegment) :
    before.length < (pathText before last).length + 1 := by
  induction before with
  | nil => simp
  | cons s before ih =>
    show before.length + 1 < (s.text ++ ':' :: ':' :: pathText before last).length + 1
    simp only [List.length_append, List.length_cons]
    omega

theorem segments?_text (p : TypePath) :
    segments? p.text = some ((p.before ++ [p.last]).map (·.segment)) := by
  obtain ⟨start, before, last⟩ := p
  have hread := segmentsFrom?_text before last (length_lt_pathText before last)
  obtain ⟨c, more, hmore, hc⟩ := exists_pathText before last
  cases start with
  | name =>
    show segments? (pathText before last) = _
    rw [hmore] at hread ⊢
    have hcolon : c ≠ ':' := by
      rintro rfl
      cases hc
    have hbracket : c ≠ '<' := by
      rintro rfl
      cases hc
    simpa [segments?, hcolon, hbracket] using hread
  | root => exact hread
  | within type h =>
    have hclosed := untilClosed_arguments h (':' :: ':' :: pathText before last)
    show segments? ('<' :: (type ++ ['>', ':', ':']) ++ pathText before last) = _
    simpa [segments?, hclosed] using hread

end Paths

section Options

/-- What is in the brackets behind the last name of a path decides, if that name is `Option`. -/
theorem optionArgument?_text (p : TypePath) :
    optionArgument? (String.ofList p.text) =
      match p.last.segment with
      | ⟨name, some arguments⟩ =>
        let argument := firstArgument [] arguments
        if name = "Option".toList ∧ isType argument then some (String.ofList argument) else none
      | _ => none := by
  have hlast : (segments? p.text).bind List.getLast? = some p.last.segment := by
    rw [segments?_text]
    simp
  rw [optionArgument?, String.toList_ofList, hlast]
  obtain ⟨name, arguments?⟩ := p.last.segment
  cases arguments? <;> rfl

theorem isBalanced_word {c : Char} (h : isWord c) {commas : Bool} {rest : List Char}
    (hrest : IsBalanced commas rest) : IsBalanced commas (c :: rest) := by
  have hspecial : ['<', '(', '[', '\x7b', '>', ')', ']', '\x7d', '-', ','].all (!isWord ·) := rfl
  have hne : ∀ x ∈ ['<', '(', '[', '\x7b', '>', ')', ']', '\x7d', '-', ','], c ≠ x := by
    rintro x hx rfl
    simpa [h] using List.all_eq_true.1 hspecial c hx
  simp only [List.forall_mem_cons] at hne
  refine .char ?_ ?_ ?_ hrest
  · simp [closing?, hne]
  · simp [isMark, hne]
  · exact fun hcomma => absurd hcomma (by simp [hne])

theorem isBalanced_colons {commas : Bool} {rest : List Char} (h : IsBalanced commas rest) :
    IsBalanced commas (':' :: ':' :: rest) :=
  .char rfl rfl (by simp) (.char rfl rfl (by simp) h)

theorem PathSegment.isBalanced_text (s : PathSegment) : IsBalanced false s.text := by
  have htail : IsBalanced false s.tail := by
    rw [PathSegment.tail]
    cases harguments : s.segment.arguments? with
    | none => exact .nil
    | some arguments =>
      have hgroup : IsBalanced false ('<' :: (arguments ++ ['>'])) :=
        .group rfl (s.arguments_isBalanced arguments harguments) .nil
      cases s.colons with
      | false => exact hgroup
      | true => exact isBalanced_colons hgroup
  rw [PathSegment.text]
  have hname := s.isName.isWord
  generalize s.segment.name = name at hname ⊢
  induction name with
  | nil => exact htail
  | cons c name ih =>
    obtain ⟨hc, hrest⟩ := List.forall_mem_cons.1 hname
    exact isBalanced_word hc (ih hrest)

/-- A path has commas in brackets only. -/
theorem TypePath.isBalanced_text (p : TypePath) : IsBalanced false p.text := by
  obtain ⟨start, before, last⟩ := p
  have hpath : IsBalanced false (pathText before last) := by
    induction before with
    | nil => exact last.isBalanced_text
    | cons s before ih => exact s.isBalanced_text.append (isBalanced_colons ih)
  cases start with
  | name => exact hpath
  | root => exact isBalanced_colons hpath
  | within type h =>
    show IsBalanced false ('<' :: (type ++ ['>', ':', ':']) ++ pathText before last)
    rw [List.cons_append, List.append_assoc]
    exact .group rfl h (isBalanced_colons hpath)

theorem exists_first (before : List PathSegment) (last : PathSegment) :
    ∃ (s : PathSegment) (rest : List Char), pathText before last = s.text ++ rest ∧
      (rest = [] ∨ ∃ more, rest = ':' :: ':' :: more) := by
  cases before with
  | nil => exact ⟨last, [], (List.append_nil _).symm, .inl rfl⟩
  | cons s before => exact ⟨s, _, rfl, .inr ⟨_, rfl⟩⟩

/-- A text that begins with a name is a type if no constant, no lifetime and no binding does. -/
theorem isType_of_name (s : PathSegment) {rest : List Char}
    (hrest : rest = [] ∨ ∃ more, rest = ':' :: ':' :: more) : isType (s.text ++ rest) := by
  obtain ⟨hname, htail⟩ :=
    takeWhile_name s.isName.isWord (s.endsName_tail (endsName_of_colons hrest))
  rw [← List.append_assoc] at hname htail
  change (s.text ++ rest).takeWhile isWord = _ at hname
  change (s.text ++ rest).dropWhile isWord = _ at htail
  have hreserved : s.text ++ rest ≠ "true".toList ∧ s.text ++ rest ≠ "false".toList := by
    constructor
    · intro h
      exact s.isName.ne_true (by rw [← hname, h]; decide)
    · intro h
      exact s.isName.ne_false (by rw [← hname, h]; decide)
  obtain ⟨c, name, hcons⟩ := List.exists_cons_of_ne_nil s.isName.ne_nil
  have hc : c ≠ '-' ∧ c ≠ '\x7b' ∧ c.isDigit = false := by
    have hword : isWord c := s.isName.isWord c (by simp [hcons])
    refine ⟨?_, ?_, s.isName.isDigit c (by simp [hcons])⟩
    all_goals
      rintro rfl
      cases hword
  have hargument : s.text ++ rest = c :: (name ++ s.tail ++ rest) := by
    simp [PathSegment.text, hcons]
  -- behind the name and its arguments the text ends, or a colon pair follows
  have hafter : afterName (s.text ++ rest) = [] ∨
      ∃ more, afterName (s.text ++ rest) = ':' :: ':' :: more := by
    rw [afterName, htail]
    obtain hnone | ⟨more, hcolons⟩ | ⟨arguments, hbalanced, harguments⟩ := s.tail_append rest
    · rw [hnone]
      obtain rfl | ⟨more, rfl⟩ := hrest
      · exact .inl rfl
      · exact .inr ⟨more, rfl⟩
    · rw [hcolons]
      exact .inr ⟨more, rfl⟩
    · simpa [harguments, untilClosed_arguments hbalanced] using hrest
  have hquote : ∀ x ∈ (s.tail ++ rest).head?, x ≠ '\'' ∧ x ≠ '"' := by
    obtain hnone | ⟨more, hcolons⟩ | ⟨arguments, -, harguments⟩ := s.tail_append rest
    · rw [hnone]
      obtain rfl | ⟨more, rfl⟩ := hrest <;> simp
    · simp [hcolons]
    · simp [harguments]
  rw [hargument] at hreserved htail hafter ⊢
  simp only [isType, htail]
  generalize s.tail ++ rest = tail at hquote ⊢
  generalize afterName (c :: (name ++ s.tail ++ rest)) = after at hafter ⊢
  rw [Bool.and_eq_true, Bool.and_eq_true]
  refine ⟨⟨?_, ?_⟩, ?_⟩
  · rw [decide_eq_true hreserved.1, decide_eq_true hreserved.2]
    simp [hc]
  · split
    · exact ((hquote _ rfl).1 rfl).elim
    · exact ((hquote _ rfl).2 rfl).elim
    · rfl
  · obtain rfl | ⟨more, rfl⟩ := hafter <;> rfl

/-- The path to a type is none of the other things that can be in brackets. -/
theorem TypePath.isType_text (p : TypePath) : isType p.text := by
  obtain ⟨start, before, last⟩ := p
  have hcolon : isWord ':' = false := by decide
  have hbracket : isWord '<' = false := by decide
  cases start with
  | name =>
    obtain ⟨s, rest, hpath, hrest⟩ := exists_first before last
    show isType (pathText before last)
    rw [hpath]
    exact isType_of_name s hrest
  | root =>
    show isType (':' :: ':' :: pathText before last)
    simp [isType, afterName, hcolon]
  | within type h =>
    have hclosed := untilClosed_arguments h (':' :: ':' :: pathText before last)
    show isType ('<' :: (type ++ ['>', ':', ':']) ++ pathText before last)
    simp [isType, afterName, hbracket, hclosed]

theorem isName_option : IsName "Option".toList where
  ne_nil := by simp
  isWord := List.all_eq_true.1 rfl
  isDigit := by simp
  ne_true := by decide
  ne_false := by decide

/-- The name of a type that may be missing, with the type inside. -/
def PathSegment.option (colons : Bool) (inner : TypePath) : PathSegment where
  segment := ⟨"Option".toList, some inner.text⟩
  colons
  isName := isName_option
  arguments_isBalanced := by
    rintro _ ⟨⟩
    exact inner.isBalanced_text.weaken

/-- The type `Option` of a type, by any path. -/
def TypePath.option (start : PathStart) (before : List PathSegment) (colons : Bool)
    (inner : TypePath) : TypePath :=
  ⟨start, before, .option colons inner⟩

/-- The path to `Option` of a type leads to that type. -/
theorem optionArgument?_option (start : PathStart) (before : List PathSegment) (colons : Bool)
    (inner : TypePath) :
    optionArgument? (String.ofList (TypePath.option start before colons inner).text) =
      some (String.ofList inner.text) := by
  have hargument : firstArgument [] inner.text = inner.text := by
    have hpending : ∀ close ∈ ([] : List Char), isMark close := by simp
    simpa [firstArgument] using
      firstArgument_append inner.isBalanced_text hpending (by simp) []
  rw [optionArgument?_text]
  simp [TypePath.option, PathSegment.option, hargument, inner.isType_text]

/-- A path with another last name does not. -/
theorem optionArgument?_eq_none (p : TypePath) (h : p.last.segment.name ≠ "Option".toList) :
    optionArgument? (String.ofList p.text) = none := by
  rw [optionArgument?_text]
  generalize p.last.segment = segment at h ⊢
  obtain ⟨name, arguments?⟩ := segment
  cases arguments? with
  | none => rfl
  | some arguments => exact if_neg fun hname => h hname.1

end Options

end TypedSql.TypeText
