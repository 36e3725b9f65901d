import Mathlib.Data.List.Chain
import BuildScript.Proofs.Shell.Layout
import BuildScript.Template.Packaged

/-! # The packaged templates in their notation

A template is written as texts between marks. Where no text looks like a mark it is read back as
these texts and marks, of which tags take the line end right after them. So the parts of the packaged
header and footer are what their files are read as, and rendering the files is rendering the parts.
-/

namespace BuildScript

namespace Text

theorem unifyNewlines_eq_self {cs : List Char} (h : '\r' ∉ cs) : unifyNewlines cs = cs := by
  induction cs with
  | nil => rfl
  | cons c rest ih =>
    obtain ⟨hc, hr⟩ := List.ne_and_not_mem_of_not_mem_cons h
    rw [unifyNewlines, ih hr, if_neg (Ne.symm hc)]
    rintro _ rfl
    exact absurd rfl hc

end Text

namespace Template

variable {s inner : List Char} {kind : MarkKind} {c d : Char}

/-! ## Texts that hold no mark -/

def opensMark (c d : Char) : Bool :=
  ([MarkKind.output, .tag, .comment].find? fun k => c == '\x7b' && d == k.opening).isSome

/-- Characters in which no mark begins and no line ends in another way than with a newline. -/
structure Plain (cs : List Char) : Prop where
  returns : '\r' ∉ cs
  marks : cs.IsChain fun c d => opensMark c d = false

instance (cs : List Char) : Decidable (Plain cs) :=
  decidable_of_iff ('\r' ∉ cs ∧ cs.IsChain fun c d => opensMark c d = false)
    ⟨fun h => ⟨h.1, h.2⟩, fun h => ⟨h.1, h.2⟩⟩

theorem Plain.of_append_left {t : List Char} (h : Plain (s ++ t)) : Plain s :=
  ⟨fun hs => h.returns (List.mem_append_left t hs), h.marks.left_of_append⟩

theorem Plain.tail (h : Plain (c :: s)) : Plain s :=
  ⟨fun hs => h.returns (List.mem_cons_of_mem c hs), h.marks.tail⟩

theorem plain_append_newline {t : List Char} (hs : Plain s) (ht : Plain t) :
    Plain (s ++ '\n' :: t) := by
  refine ⟨by simp [hs.returns, ht.returns], List.isChain_append.mpr ⟨hs.marks, ?_, ?_⟩⟩
  · cases t with
    | nil => exact .singleton _
    | cons d t => exact List.isChain_cons_cons.mpr ⟨by simp [opensMark], ht.marks⟩
  · rintro c - d hd
    obtain rfl : '\n' = d := by simpa using hd
    cases hc : c == '\x7b' <;> simp [opensMark, hc, MarkKind.opening, MarkKind.closing]

/-- Lines that hold no mark, of which the last is followed by a character that may open one. -/
def PlainLines : List String → Prop
  | [] => True
  | [last] => Plain (last.toList ++ ['\x7b'])
  | line :: rest => Plain line.toList ∧ PlainLines rest

theorem plain_joinLines {ls : List String} (hn : ls ≠ []) (h : PlainLines ls) :
    Plain ((Text.joinLines ls).toList ++ ['\x7b']) := by
  induction ls with
  | nil => exact absurd rfl hn
  | cons l ls ih =>
    cases ls with
    | nil => simpa [Text.joinLines, PlainLines] using h
    | cons m ls =>
      have rest := ih (List.cons_ne_nil m ls) h.2
      have split : (Text.joinLines (l :: m :: ls)).toList ++ ['\x7b'] =
          l.toList ++ '\n' :: ((Text.joinLines (m :: ls)).toList ++ ['\x7b']) := by
        simp [Text.joinLines_cons]
      rw [split]
      exact plain_append_newline h.1 rest

theorem plain_line {line : String} {cs : List Char} (h : line = String.ofList cs)
    (plain : Plain cs) : Plain line.toList := by
  rwa [h, String.toList_ofList]

theorem plain_last {line : String} {cs : List Char} (h : line = String.ofList cs)
    (plain : Plain (cs ++ ['\x7b'])) : Plain (line.toList ++ ['\x7b']) := by
  rwa [h, String.toList_ofList]

/-! ## Reading texts and marks -/

theorem lex_text_cons {read rest : List Char} (h : opensMark c d = false) :
    lex none read (c :: d :: rest) = lex none (c :: read) (d :: rest) := by
  have none : ([MarkKind.output, .tag, .comment].find? fun k => c == '\x7b' && d == k.opening) =
      none := Option.isSome_eq_false_iff.mp h |> Option.isNone_iff_eq_none.mp
  rw [lex, none]

theorem lex_text (h : Plain (s ++ ['\x7b'])) (read rest : List Char) :
    lex none read (s ++ '\x7b' :: rest) = lex none (s.reverse ++ read) ('\x7b' :: rest) := by
  induction s generalizing read with
  | nil => rfl
  | cons c s ih =>
    obtain ⟨d, more, next, quiet⟩ : ∃ d more, s ++ '\x7b' :: rest = d :: more ∧
        opensMark c d = false := by
      cases s with
      | nil => exact ⟨_, _, rfl, (List.isChain_cons_cons.mp h.marks).1⟩
      | cons d s => exact ⟨_, _, rfl, (List.isChain_cons_cons.mp h.marks).1⟩
    rw [List.cons_append, next, lex_text_cons quiet, ← next, ih h.tail, List.reverse_cons,
      List.append_assoc, List.singleton_append]

theorem lex_end (h : Plain s) (read : List Char) :
    lex none read s = some [.text (read.reverse ++ s)] := by
  induction s generalizing read with
  | nil => simp [lex, lexEnd]
  | cons c s ih =>
    cases s with
    | nil => simp [lex, lexEnd]
    | cons d s =>
      rw [lex_text_cons (List.isChain_cons_cons.mp h.marks).1, ih h.tail, List.reverse_cons,
        List.append_assoc, List.singleton_append]

theorem lex_opening (kind : MarkKind) (read rest : List Char) :
    lex none read ('\x7b' :: kind.opening :: rest) =
      (lex (some kind) [] rest).map (.text read.reverse :: ·) := by
  cases kind <;> simp [lex, MarkKind.opening, MarkKind.closing]

theorem lex_closing (h : kind.closing ∉ inner) (read rest : List Char) :
    lex (some kind) read (inner ++ kind.closing :: '\x7d' :: rest) =
      (lex none [] rest).map (Token.ofInner kind (read.reverse ++ inner) :: ·) := by
  induction inner generalizing read with
  | nil => simp [lex]
  | cons c inner ih =>
    obtain ⟨hc, hr⟩ := List.ne_and_not_mem_of_not_mem_cons h
    obtain ⟨d, more, next⟩ : ∃ d more, inner ++ kind.closing :: '\x7d' :: rest = d :: more := by
      cases inner <;> exact ⟨_, _, rfl⟩
    have inside : (c == kind.closing && d == '\x7d') = false := by simp [Ne.symm hc]
    rw [List.cons_append, next, lex, inside, ← next]
    simp [ih hr]

/-! ## Templates in their notation -/

/-- The line end that belongs to a mark of a kind: a tag has its line for itself. -/
def MarkKind.lineEnd : MarkKind → List Char
  | .output => []
  | .tag | .comment => ['\n']

def spaced (words : String) : List Char := ' ' :: (words.toList ++ [' '])

def MarkKind.written (kind : MarkKind) (words : String) : String :=
  String.ofList ('\x7b' :: kind.opening :: spaced words ++ kind.closing :: '\x7d' :: kind.lineEnd)

def written (last : String) : List (String × MarkKind × String) → String
  | [] => last
  | (text, kind, words) :: rest => text ++ kind.written words ++ written last rest

/-- The tokens of texts and marks. Each text comes after the line end of the mark before it. -/
def tokensAfter (lineEnd : List Char) (last : String) :
    List (String × MarkKind × String) → List Token
  | [] => [.text (lineEnd ++ last.toList)]
  | (text, kind, words) :: rest =>
    .text (lineEnd ++ text.toList) :: .mark kind .plain .plain (spaced words) ::
      tokensAfter kind.lineEnd last rest

/-- The tokens of texts and marks once every tag has taken its line end. -/
def keptTokens (last : String) : List (String × MarkKind × String) → List Token
  | [] => [.text last.toList]
  | (text, kind, words) :: rest =>
    .text text.toList :: .mark kind .plain .plain (spaced words) :: keptTokens last rest

def EndsLine (s : List Char) : Prop := s = [] ∨ ∃ before, s = before ++ ['\n']

/-- A text and the mark after it that can be told apart. -/
structure LegibleMark (text : String) (kind : MarkKind) (words : String) : Prop where
  plain : Plain (text.toList ++ ['\x7b'])
  closing : kind.closing ∉ spaced words
  returns : '\r' ∉ spaced words
  line : kind = .output ∨ EndsLine text.toList

structure Legible (last : String) (marked : List (String × MarkKind × String)) : Prop where
  marks : ∀ m ∈ marked, LegibleMark m.1 m.2.1 m.2.2
  last : Plain (last.toList ++ ['\x7b'])

variable {text last words : String} {marked : List (String × MarkKind × String)}
  {m : String × MarkKind × String}

theorem Legible.tail (h : Legible last (m :: marked)) : Legible last marked :=
  ⟨fun n hn => h.marks n (List.mem_cons_of_mem m hn), h.last⟩

theorem Legible.head (h : Legible last ((text, kind, words) :: marked)) :
    LegibleMark text kind words :=
  h.marks _ List.mem_cons_self

theorem toList_written_cons : (written last ((text, kind, words) :: marked)).toList =
    text.toList ++ '\x7b' :: kind.opening :: (spaced words ++
      kind.closing :: '\x7d' :: (kind.lineEnd ++ (written last marked).toList)) := by
  simp [written, MarkKind.written]

theorem ofInner_spaced (kind : MarkKind) (words : String) :
    Token.ofInner kind (spaced words) = .mark kind .plain .plain (spaced words) := by
  have first : ((spaced words).head?.bind sign?).getD .plain = .plain := rfl
  have last : ((spaced words).getLast?.bind sign?).getD .plain = .plain := by
    rw [spaced, ← List.cons_append, List.getLast?_concat]
    rfl
  simp [Token.ofInner, first, last]

/-- A line end before a text opens no mark. -/
theorem lex_lineEnd {lineEnd : List Char} (h : lineEnd = [] ∨ lineEnd = ['\n'])
    (cs : List Char) : lex none [] (lineEnd ++ cs) = lex none lineEnd.reverse cs := by
  rcases h with rfl | rfl
  · rfl
  · cases cs with
    | nil => rfl
    | cons d rest => exact lex_text_cons (by simp [opensMark])

theorem MarkKind.lineEnd_cases (kind : MarkKind) : kind.lineEnd = [] ∨ kind.lineEnd = ['\n'] := by
  cases kind <;> simp [MarkKind.lineEnd]

theorem lex_written (h : Legible last marked) (lineEnd : List Char) :
    lex none lineEnd.reverse (written last marked).toList =
      some (tokensAfter lineEnd last marked) := by
  induction marked generalizing lineEnd with
  | nil => rw [written, lex_end h.last.of_append_left, List.reverse_reverse, tokensAfter]
  | cons m rest ih =>
    obtain ⟨text, kind, words⟩ := m
    rw [toList_written_cons, lex_text h.head.plain, lex_opening, lex_closing h.head.closing,
      lex_lineEnd kind.lineEnd_cases, ih h.tail, tokensAfter, List.reverse_nil, List.nil_append,
      ofInner_spaced]
    simp

theorem not_mem_written (h : Legible last marked) : '\r' ∉ (written last marked).toList := by
  induction marked with
  | nil => exact h.last.of_append_left.returns
  | cons m rest ih =>
    obtain ⟨text, kind, words⟩ := m
    have before := h.head.plain.of_append_left.returns
    rw [toList_written_cons]
    cases kind <;>
      simp [MarkKind.opening, MarkKind.closing, MarkKind.lineEnd, before, h.head.returns, ih h.tail]

/-! ## What the marks take -/

theorem dropMargin_of_endsLine (h : EndsLine s) (lineStart : Bool) :
    dropMargin lineStart s = s := by
  rcases h with rfl | ⟨before, rfl⟩
  · simp [dropMargin]
  · simp [dropMargin]

/-- Every tag takes its line end, and no more. -/
theorem trim_tokensAfter (h : Legible last marked) {taken : List Char → List Char}
    {lineEnd : List Char} (ht : ∀ cs, taken (lineEnd ++ cs) = lineEnd) :
    trim taken (tokensAfter lineEnd last marked) = keptTokens last marked := by
  -- what the mark before a text takes is another for every text
  induction marked generalizing taken lineEnd with
  | nil => simp [tokensAfter, keptTokens, trim, ht]
  | cons m rest ih =>
    obtain ⟨text, kind, words⟩ := m
    have next (cs : List Char) : takenAfter kind .plain (kind.lineEnd ++ cs) = kind.lineEnd := by
      cases kind <;> rfl
    have kept (lineStart : Bool) : leftBefore kind .plain lineStart text.toList = text.toList := by
      rcases h.head.line with rfl | line
      · rfl
      · cases kind <;> simp [leftBefore, dropMargin_of_endsLine line]
    simp [tokensAfter, keptTokens, trim, ht, kept, ih h.tail next]

/-- The file of a template, which ends with a newline, is read as the texts and marks that are
written in it. -/
theorem parse_written (h : Legible last marked) {parts : List Part}
    (shallow : depth 0 (tokensAfter ['\n'] last marked) ≤ depthLimit)
    (assembled : assemble [] [] (keptTokens last marked) = some parts) :
    parse (written last marked ++ "\n") = .ok (unify parts) := by
  have chars : dropLastNewline (Text.unifyNewlines (written last marked ++ "\n").toList) =
      (written last marked).toList := by
    rw [String.toList_append, Text.unifyNewlines_eq_self]
    · simp [dropLastNewline]
    · simp [not_mem_written h]
  -- the line end that `parse` puts before a template is taken like that of a tag
  have lexed : lex none [] ('\n' :: (written last marked).toList) =
      some (tokensAfter ['\n'] last marked) :=
    (lex_lineEnd (.inr rfl) _).trans (lex_written h ['\n'])
  have trimmed : trim (List.take 1) (tokensAfter ['\n'] last marked) = keptTokens last marked :=
    trim_tokensAfter h fun _ => rfl
  have readable : ¬readingLimit < depth 0 (tokensAfter ['\n'] last marked) := by
    unfold readingLimit
    unfold depthLimit at shallow
    omega
  rw [parse]
  simp only [chars, lexed, trimmed, assembled, readable, Nat.not_lt.mpr shallow, if_false]
  rfl

/-! ## The packaged files -/

def headerMarks : List (String × MarkKind × String) := [
  (headerStart, .output, "version"),
  (headerHelpers, .output, "retry_attempts"),
  (headerAttempt, .output, "retry_attempts"),
  (headerGivenUp, .output, "retry_attempts"),
  (headerFailure, .output, "retry_attempts"),
  (headerTimers, .tag, "if finish"),
  ("", .output, "finish"),
  ("\n", .tag, "else"),
  ("  :\n", .tag, "endif")]

def packagedFile (path : String) : Option String :=
  if path = "header.sh.j2" then some (written headerEnd headerMarks ++ "\n")
  else if path = "footer.sh.j2" then some (written footerText [] ++ "\n")
  else none

theorem packagedFile_header :
    packagedFile "header.sh.j2" = some (written headerEnd headerMarks ++ "\n") :=
  if_pos rfl

theorem packagedFile_footer :
    packagedFile "footer.sh.j2" = some (written footerText [] ++ "\n") :=
  (if_neg (by decide)).trans (if_pos rfl)

theorem endsLine_joinLines {ls : List String} (hl : ls ≠ []) :
    EndsLine (Text.joinLines (ls ++ [""])).toList := by
  refine .inr ⟨(Text.joinLines ls).toList, ?_⟩
  rw [Text.joinLines_append hl (List.cons_ne_nil _ _), String.toList_append, String.toList_append]
  simp [Text.joinLines]

theorem endsLine_headerTimers : EndsLine headerTimers.toList := by
  have split (ls : List String) (h : ls.dropLast ≠ []) (hl : ls = ls.dropLast ++ [""]) :
      EndsLine (Text.joinLines ls).toList := by
    rw [hl]
    exact endsLine_joinLines h
  exact split _ (List.cons_ne_nil _ _) rfl

set_option maxRecDepth 1000 in
theorem plain_header : Plain (headerStart.toList ++ ['\x7b']) ∧
    Plain (headerHelpers.toList ++ ['\x7b']) ∧ Plain (headerAttempt.toList ++ ['\x7b']) ∧
    Plain (headerGivenUp.toList ++ ['\x7b']) ∧ Plain (headerFailure.toList ++ ['\x7b']) ∧
    Plain (headerTimers.toList ++ ['\x7b']) ∧ Plain (headerEnd.toList ++ ['\x7b']) := by
  -- line by line, so that no step has the characters of a whole text before it
  refine ⟨?_, ?_, ?_, ?_, ?_, ?_, ?_⟩
  all_goals
    refine plain_joinLines (List.cons_ne_nil _ _) ?_
    and_intros <;>
      first
      | exact plain_line rfl (by decide +kernel)
      | exact plain_last rfl (by decide +kernel)

theorem plain_footer : Plain (footerText.toList ++ ['\x7b']) := by
  refine plain_joinLines (List.cons_ne_nil _ _) ⟨?_, ?_, ?_⟩
  · exact plain_line rfl (by decide +kernel)
  · exact plain_line rfl (by decide +kernel)
  · exact plain_last rfl (by decide +kernel)

theorem legible_header : Legible headerEnd headerMarks := by
  obtain ⟨start, helpers, attempt, givenUp, failure, timers, headerEnd⟩ := plain_header
  refine ⟨?_, headerEnd⟩
  simp only [headerMarks, List.forall_mem_cons]
  exact ⟨⟨start, by decide, by decide, .inl rfl⟩, ⟨helpers, by decide, by decide, .inl rfl⟩,
    ⟨attempt, by decide, by decide, .inl rfl⟩, ⟨givenUp, by decide, by decide, .inl rfl⟩,
    ⟨failure, by decide, by decide, .inl rfl⟩,
    ⟨timers, by decide, by decide, .inr endsLine_headerTimers⟩,
    ⟨by decide, by decide, by decide, .inl rfl⟩,
    ⟨plain_last rfl (by decide), by decide, by decide, .inr (.inr ⟨[], rfl⟩)⟩,
    ⟨plain_last rfl (by decide), by decide, by decide, .inr (.inr ⟨[' ', ' ', ':'], rfl⟩)⟩,
    by simp⟩

theorem legible_footer : Legible footerText [] :=
  ⟨by simp, plain_footer⟩

/-! ## The parts of the packaged files -/

section Assembling

variable {choices : List OpenChoice} {parts : List Part} {rest : List Token} {name : String}

theorem assemble_text (h : text ≠ "") : assemble choices parts (.text text.toList :: rest) =
    assemble choices (parts ++ [.text text]) rest := by
  cases chars : text.toList with
  | nil => exact absurd (String.toList_eq_nil_iff.mp chars) h
  | cons c cs => rw [assemble, ← chars, String.ofList_toList]; simp

theorem assemble_empty : assemble choices parts (.text "".toList :: rest) =
    assemble choices parts rest := rfl

theorem assemble_value (h : name? (spaced words) = some name) :
    assemble choices parts (.mark .output .plain .plain (spaced words) :: rest) =
      assemble choices (parts ++ [.value name]) rest := by
  rw [assemble, h]

theorem assemble_whenSet (h : tag? (spaced words) = some (.whenSet name)) :
    assemble choices parts (.mark .tag .plain .plain (spaced words) :: rest) =
      assemble (⟨parts, [], some name⟩ :: choices) [] rest := by
  simp only [assemble, h]

theorem assemble_otherwise (h : tag? (spaced words) = some .otherwise) {before : List Part}
    {arms : List (String × List Part)} :
    assemble (⟨before, arms, some name⟩ :: choices) parts
        (.mark .tag .plain .plain (spaced words) :: rest) =
      assemble (⟨before, arms ++ [(name, parts)], none⟩ :: choices) [] rest := by
  simp only [assemble, h]

theorem assemble_endChoice (h : tag? (spaced words) = some .endChoice) {choice : OpenChoice} :
    assemble (choice :: choices) parts (.mark .tag .plain .plain (spaced words) :: rest) =
      assemble choices (choice.close parts) rest := by
  simp only [assemble, h]

end Assembling

theorem joinLines_ne_empty (l m : String) (ls : List String) :
    Text.joinLines (l :: m :: ls) ≠ "" := by
  intro h
  have := congrArg String.toList h
  simp [Text.joinLines_cons] at this

theorem tag_if_finish : tag? (spaced "if finish") = some (.whenSet "finish") := by decide +kernel

theorem tag_else : tag? (spaced "else") = some .otherwise := by decide +kernel

theorem tag_endif : tag? (spaced "endif") = some .endChoice := by decide +kernel

theorem assemble_header : assemble [] [] (keptTokens headerEnd headerMarks) = some header := by
  have start : headerStart ≠ "" := joinLines_ne_empty _ _ _
  have helpers : headerHelpers ≠ "" := joinLines_ne_empty _ _ _
  have attempt : headerAttempt ≠ "" := joinLines_ne_empty _ _ _
  have givenUp : headerGivenUp ≠ "" := joinLines_ne_empty _ _ _
  have failure : headerFailure ≠ "" := joinLines_ne_empty _ _ _
  have timers : headerTimers ≠ "" := joinLines_ne_empty _ _ _
  have last : headerEnd ≠ "" := joinLines_ne_empty _ _ _
  have version : name? (spaced "version") = some "version" := by decide +kernel
  have attempts : name? (spaced "retry_attempts") = some "retry_attempts" := by decide +kernel
  have finish : name? (spaced "finish") = some "finish" := by decide +kernel
  simp only [headerMarks, keptTokens]
  rw [assemble_text start, assemble_value version, assemble_text helpers, assemble_value attempts,
    assemble_text attempt, assemble_value attempts, assemble_text givenUp, assemble_value attempts,
    assemble_text failure, assemble_value attempts, assemble_text timers,
    assemble_whenSet tag_if_finish, assemble_empty, assemble_value finish,
    assemble_text (by decide), assemble_otherwise tag_else, assemble_text (by decide),
    assemble_endChoice tag_endif, assemble_text last]
  rfl

mutual

theorem Part.rename_eq_self {f : String → String} : (part : Part) →
    (∀ name ∈ part.names, f name = name) → part.rename f = part
  | .text _, _ => rfl
  | .value name, h => congrArg Part.value (h name List.mem_cons_self)
  | .choice name yes no, h => by
    obtain ⟨first, arms⟩ := List.forall_mem_cons.mp h
    obtain ⟨yes', no'⟩ := List.forall_mem_append.mp arms
    rw [Part.rename, first, renameAll_eq_self yes yes', renameAll_eq_self no no']

theorem renameAll_eq_self {f : String → String} : (parts : List Part) →
    (∀ name ∈ namesIn parts, f name = name) → renameAll f parts = parts
  | [], _ => rfl
  | part :: rest, h => by
    obtain ⟨first, more⟩ := List.forall_mem_append.mp h
    rw [renameAll, Part.rename_eq_self part first, renameAll_eq_self rest more]

end

theorem unify_header : unify header = header :=
  renameAll_eq_self header (by decide +kernel)

theorem parse_header : parse (written headerEnd headerMarks ++ "\n") = .ok header := by
  have shallow : depth 0 (tokensAfter ['\n'] headerEnd headerMarks) ≤ depthLimit := by
    simp [headerMarks, tokensAfter, depth, tag_if_finish, tag_else, tag_endif, depthLimit]
  rw [parse_written legible_header shallow assemble_header, unify_header]

theorem parse_footer : parse (written footerText [] ++ "\n") = .ok footer := by
  have assembled : assemble [] [] (keptTokens footerText []) = some footer :=
    assemble_text (joinLines_ne_empty _ _ _)
  rw [parse_written legible_footer (Nat.zero_le _) assembled]
  rfl

/-! ## Rendering the packaged files -/

mutual

/-- What a part is rendered as hangs on the values of its names only. -/
theorem Part.render_congr {context context' : Context} : (part : Part) →
    (∀ name ∈ part.names, context.value name = context'.value name) →
    part.render context = part.render context'
  | .text _, _ => rfl
  | .value name, h => by rw [Part.render, Part.render, h name List.mem_cons_self]
  | .choice name yes no, h => by
    obtain ⟨first, arms⟩ := List.forall_mem_cons.mp h
    obtain ⟨yes', no'⟩ := List.forall_mem_append.mp arms
    rw [Part.render, Part.render, first, renderAll_congr yes yes', renderAll_congr no no']

theorem renderAll_congr {context context' : Context} : (parts : List Part) →
    (∀ name ∈ namesIn parts, context.value name = context'.value name) →
    renderAll context parts = renderAll context' parts
  | [], _ => rfl
  | part :: rest, h => by
    obtain ⟨first, more⟩ := List.forall_mem_append.mp h
    rw [renderAll, renderAll, Part.render_congr part first, renderAll_congr rest more]

end

def commonNames : List String := "self" :: (constants ++ globals).map Prod.fst

theorem lookup_eq_none {values : Context} {name : String} (h : name ∉ values.map Prod.fst) :
    values.lookup name = none := by
  refine List.lookup_eq_none_iff.mpr fun e he => ?_
  have other : name ≠ e.1 := fun eq => h (eq ▸ List.mem_map_of_mem he)
  simpa using other

theorem value_within {name : String} (h : name ∉ commonNames) (context : Context)
    (template : String) : (context.within template).value name = context.value name := by
  simp only [commonNames, List.map_append, List.mem_cons, List.mem_append, not_or] at h
  obtain ⟨self, constants, globals⟩ := h
  have other : (name == "self") = false := beq_eq_false_iff_ne.mpr self
  have found : (context.within template).lookup name = context.lookup name := by
    simp [Context.within, List.lookup_append, List.lookup_cons, lookup_eq_none constants,
      lookup_eq_none globals, other]
  rw [Context.value, Context.value, found]

/-- A file is rendered as what it is read as where it names nothing that every template knows. -/
theorem ofFiles_eq_renderAll {file : String → Option String} {name path source : String}
    {parts : List Part} (hp : path? name = some path) (hf : file path = some source)
    (read : parse source = .ok parts) (names : ∀ n ∈ namesIn parts, n ∉ commonNames)
    (context : Context) : ofFiles file name context = renderAll context parts := by
  rw [ofFiles, hp, Option.bind_some, hf]
  change (parse source >>= fun parts => renderAll (context.within name) parts) = _
  rw [read]
  exact renderAll_congr parts fun n hn => value_within (names n hn) context name

theorem names_header : ∀ n ∈ namesIn header, n ∉ commonNames := by decide +kernel

theorem packaged_eq_ofFiles : packaged = ofFiles packagedFile := by
  funext name context
  cases at_path : path? name with
  | none => simp only [packaged, ofFiles, at_path, Option.bind_none, reduceCtorEq, if_false]
  | some path =>
    by_cases header : path = "header.sh.j2"
    · subst header
      rw [packaged, if_pos at_path, ofFiles_eq_renderAll at_path packagedFile_header
        parse_header names_header]
    by_cases footer : path = "footer.sh.j2"
    · subst footer
      rw [packaged, if_neg (by simp [at_path]), if_pos at_path,
        ofFiles_eq_renderAll at_path packagedFile_footer parse_footer fun n hn =>
          absurd hn List.not_mem_nil]
    · simp [packaged, ofFiles, packagedFile, at_path, header, footer]

end Template

end BuildScript
