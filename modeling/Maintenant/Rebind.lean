import Mathlib.Data.List.Basic

/-!
# Placeholders for Postgres

Queries are written with `?` and rebound to `$1`, `$2`, … before they are sent.  The loop is
compared with the pieces a query is made of: literals, comments and single characters.
-/

namespace Maintenant.Store

open List

/-- Where in a query the loop is. -/
inductive Region
  | text
  | quoted (quote : Char)
  | lineComment
  | blockComment

/-- The loop from within a region, after so many placeholders. -/
def rebindPostgres (n : Nat) : Region → List Char → List Char
  | _, [] => []
  | .quoted quote, c :: rest =>
    if c = quote then
      match rest with
      | d :: rest =>
        if d = quote then c :: d :: rebindPostgres n (.quoted quote) rest
        else c :: rebindPostgres n .text (d :: rest)
      | [] => [c]
    else c :: rebindPostgres n (.quoted quote) rest
  | .lineComment, c :: rest =>
    c :: rebindPostgres n (if c = '\n' then .text else .lineComment) rest
  | .blockComment, '*' :: '/' :: rest => '*' :: '/' :: rebindPostgres n .text rest
  | .blockComment, c :: rest => c :: rebindPostgres n .blockComment rest
  | .text, '-' :: '-' :: rest => '-' :: '-' :: rebindPostgres n .lineComment rest
  | .text, '/' :: '*' :: rest => '/' :: '*' :: rebindPostgres n .blockComment rest
  | .text, '?' :: '?' :: rest => '?' :: '?' :: rebindPostgres n .text rest
  | .text, '?' :: rest => '$' :: (toString (n + 1)).toList ++ rebindPostgres (n + 1) .text rest
  | .text, c :: rest =>
    c :: rebindPostgres n (if c = '\'' ∨ c = '"' then .quoted c else .text) rest

variable {n m : Nat} {region : Region} {query rest : List Char} {c : Char}

/-- A rebound query begins as it did, or with a placeholder. -/
theorem head_rebindPostgres (n : Nat) (region : Region) (query : List Char) :
    (rebindPostgres n region query).head? = query.head? ∨
      region = .text ∧ (rebindPostgres n region query).head? = some '$' := by
  fun_cases rebindPostgres n region query <;> simp

theorem rebindPostgres_cons (plain : c ≠ '?') (dash : c = '-' → rest.head? ≠ some '-')
    (slash : c = '/' → rest.head? ≠ some '*') : rebindPostgres m .text (c :: rest) =
      c :: rebindPostgres m (if c = '\'' ∨ c = '"' then .quoted c else .text) rest := by
  rw [rebindPostgres.eq_def]
  grind

theorem rebindPostgres_digits {digits : List Char} (all : ∀ c ∈ digits, c.isDigit) :
    rebindPostgres m .text (digits ++ rest) = digits ++ rebindPostgres m .text rest := by
  induction digits with
  | nil => rfl
  | cons c digits ih =>
    obtain ⟨first, others⟩ := forall_mem_cons.mp all
    have apart : ∀ other : Char, other.isDigit = false → c ≠ other := by
      rintro _ other rfl
      simp [other] at first
    rw [cons_append, rebindPostgres_cons (apart _ rfl) (absurd · (apart _ rfl))
      (absurd · (apart _ rfl)), if_neg (not_or.mpr ⟨apart _ rfl, apart _ rfl⟩), ih others]
    rfl

theorem head_ne {d e : Char} (apart : ∀ tail, c = d → rest = e :: tail → False) (same : c = d) :
    rest.head? ≠ some e := by
  intro head
  obtain ⟨tail, rfl⟩ := List.head?_eq_some_iff.mp head
  exact apart tail same rfl

theorem rebindPostgres_settled (quote : region ≠ .quoted '$') :
    rebindPostgres m region (rebindPostgres n region query) = rebindPostgres n region query := by
  fun_induction rebindPostgres n region query with
  | case3 n quote d rest _ ih =>
    -- What follows a closing quote does not begin with one.
    have head := head_rebindPostgres n .text (d :: rest)
    generalize rebindPostgres n .text (d :: rest) = rebound at ih head
    rw [rebindPostgres.eq_def]
    cases rebound <;> grind
  | case5 n quote c rest apart ih =>
    rw [rebindPostgres.eq_def]
    simp [apart, ih ‹_›]
  | case8 n c rest inside ih =>
    have unclosed := head_ne inside
    have head := head_rebindPostgres n .blockComment rest
    rw [rebindPostgres.eq_def]
    grind
  | case12 n rest _ ih =>
    have digits : ∀ c ∈ (toString (n + 1)).toList, c.isDigit := by
      intro c mem
      refine Nat.isDigit_of_mem_toDigits (b := 10) (n := n + 1) (by decide) (by decide) ?_
      simpa using mem
    rw [cons_append, rebindPostgres_cons (by decide) (by simp) (by simp),
      if_neg (by decide), rebindPostgres_digits digits, ih ‹_›]
  | case13 n c rest dashes opens _ single ih =>
    have head := head_rebindPostgres n (if c = '\'' ∨ c = '"' then .quoted c else .text) rest
    have dash := head_ne dashes
    have slash := head_ne opens
    rw [rebindPostgres_cons single, ih] <;> grind
  | _ => grind [rebindPostgres]

/-! ### Queries as pieces -/

/-- A literal or a comment that is not closed is the last piece of its query. -/
inductive Piece
  | plain (c : Char)
  | literal (quote : Char) (body : List Char) (closed : Bool)
  | lineComment (body : List Char) (closed : Bool)
  | blockComment (body : List Char) (closed : Bool)
  /-- `??`, which is an operator. -/
  | doubled
  | placeholder

/-- Inside of a literal its quote is doubled. -/
def escaped (quote : Char) (body : List Char) : List Char :=
  body.flatMap fun c => if c = quote then [c, c] else [c]

def Piece.text : Piece → List Char
  | .plain c => [c]
  | .literal quote body closed =>
    quote :: (escaped quote body ++ if closed then [quote] else [])
  | .lineComment body closed => '-' :: '-' :: (body ++ if closed then ['\n'] else [])
  | .blockComment body closed => '/' :: '*' :: (body ++ if closed then ['*', '/'] else [])
  | .doubled => ['?', '?']
  | .placeholder => ['?']

/-- The text of a query. -/
def textOf (pieces : List Piece) : List Char := pieces.flatMap Piece.text

/-- The piece is read as such in front of this text. -/
def Piece.Before (rest : List Char) : Piece → Prop
  | .plain c => (c ≠ '?' ∧ c ≠ '\'' ∧ c ≠ '"') ∧ (c = '-' → rest.head? ≠ some '-') ∧
      (c = '/' → rest.head? ≠ some '*')
  | .literal quote _ closed =>
    (quote = '\'' ∨ quote = '"') ∧ if closed then rest.head? ≠ some quote else rest = []
  | .lineComment body closed => '\n' ∉ body ∧ (closed = false → rest = [])
  | .blockComment body closed => ¬['*', '/'] <:+: body ∧ (closed = false → rest = [])
  | .doubled => True
  | .placeholder => rest.head? ≠ some '?'

/-- Each piece is read as such. -/
def Legible : List Piece → Prop
  | [] => True
  | piece :: pieces => piece.Before (textOf pieces) ∧ Legible pieces

/-- What a piece becomes after `n` placeholders, and how many there are after it. -/
def Piece.rebound (n : Nat) : Piece → List Char × Nat
  | .placeholder => ('$' :: (toString (n + 1)).toList, n + 1)
  | piece => (piece.text, n)

/-- The placeholders are numbered on from `n`, and all other pieces are as they were. -/
def numbered (n : Nat) : List Piece → List Char
  | [] => []
  | piece :: pieces => (piece.rebound n).1 ++ numbered (piece.rebound n).2 pieces

section Regions

variable {quote : Char} {body : List Char}

theorem rebindPostgres_escaped : rebindPostgres n (.quoted quote) (escaped quote body ++ rest) =
    escaped quote body ++ rebindPostgres n (.quoted quote) rest := by
  induction body with
  | nil => rfl
  | cons c body ih =>
    rw [escaped] at ih
    rw [escaped, List.flatMap_cons, List.append_assoc, List.append_assoc, ← ih]
    by_cases same : c = quote
    · simp [same, rebindPostgres]
    · rw [if_neg same, List.singleton_append, rebindPostgres.eq_def]
      simp [same]

theorem rebindPostgres_closing (apart : rest.head? ≠ some quote) :
    rebindPostgres n (.quoted quote) (quote :: rest) = quote :: rebindPostgres n .text rest := by
  cases rest with
  | nil => simp [rebindPostgres]
  | cons d rest =>
    have other : d ≠ quote := fun same => apart (same ▸ rfl)
    simp [rebindPostgres, other]

theorem rebindPostgres_lineComment (whole : '\n' ∉ body) :
    rebindPostgres n .lineComment (body ++ rest) = body ++ rebindPostgres n .lineComment rest := by
  induction body with
  | nil => rfl
  | cons c body ih =>
    obtain ⟨other, whole⟩ := not_or.mp (mt List.mem_cons.mpr whole)
    rw [List.cons_append, rebindPostgres, if_neg (Ne.symm other), ih whole, List.cons_append]

theorem rebindPostgres_blockComment (whole : ¬['*', '/'] <:+: body)
    (apart : rest.head? ≠ some '/') : rebindPostgres n .blockComment (body ++ rest) =
      body ++ rebindPostgres n .blockComment rest := by
  induction body with
  | nil => rfl
  | cons c body ih =>
    have inner : ¬['*', '/'] <:+: body := fun found =>
      whole (found.trans (List.suffix_cons c body).isInfix)
    have next : c = '*' → (body ++ rest).head? ≠ some '/' := by
      rintro rfl head
      cases body with
      | nil => exact apart head
      | cons d body =>
        obtain rfl : d = '/' := Option.some.inj head
        exact whole ⟨[], body, rfl⟩
    rw [List.cons_append, List.cons_append, ← ih inner]
    generalize body ++ rest = later at next
    rw [rebindPostgres.eq_def]
    grind

end Regions

theorem rebindPostgres_piece {piece : Piece} (read : piece.Before rest) :
    rebindPostgres n .text (piece.text ++ rest) =
      (piece.rebound n).1 ++ rebindPostgres (piece.rebound n).2 .text rest := by
  cases piece with
  | plain c =>
    obtain ⟨⟨mark, single, double⟩, dash, slash⟩ := read
    exact (rebindPostgres_cons mark dash slash).trans
      (by rw [if_neg (not_or.mpr ⟨single, double⟩)]; rfl)
  | literal quote body closed =>
    obtain ⟨quotes, ends⟩ := read
    have opens (tail : List Char) : rebindPostgres n .text (quote :: tail) =
        quote :: rebindPostgres n (.quoted quote) tail := by
      rcases quotes with rfl | rfl <;> exact rebindPostgres_cons (by decide) nofun nofun
    simp only [Piece.text, Piece.rebound, List.cons_append, List.append_assoc, opens]
    rw [rebindPostgres_escaped]
    cases closed with
    | true => exact congrArg (quote :: escaped quote body ++ ·) (rebindPostgres_closing ends)
    | false =>
      obtain rfl : rest = [] := ends
      simp [rebindPostgres]
  | lineComment body closed =>
    obtain ⟨whole, ends⟩ := read
    simp only [Piece.text, Piece.rebound, List.cons_append, List.append_assoc, rebindPostgres]
    rw [rebindPostgres_lineComment whole]
    cases closed with
    | true => simp [rebindPostgres]
    | false => simp [ends rfl, rebindPostgres]
  | blockComment body closed =>
    obtain ⟨whole, ends⟩ := read
    simp only [Piece.text, Piece.rebound, List.cons_append, List.append_assoc, rebindPostgres]
    cases closed with
    | true =>
      rw [rebindPostgres_blockComment whole (by simp)]
      simp [rebindPostgres]
    | false =>
      obtain rfl := ends rfl
      rw [rebindPostgres_blockComment whole (by simp)]
      simp [rebindPostgres]
  | doubled => rfl
  | placeholder =>
    cases rest with
    | nil => rfl
    | cons c rest =>
      have other : c ≠ '?' := fun same => read (same ▸ rfl)
      simp [Piece.text, Piece.rebound, rebindPostgres, other]

theorem rebindPostgres_textOf {pieces : List Piece} (legible : Legible pieces) :
    rebindPostgres n .text (textOf pieces) = numbered n pieces := by
  induction pieces generalizing n with
  | nil => rfl
  | cons piece pieces ih =>
    rw [numbered, ← ih legible.2]
    exact rebindPostgres_piece legible.1

/-- What a region of a query goes on with, up to the end of the query. -/
def Region.Reads : Region → List Char → Prop
  | .text, query => ∃ pieces, Legible pieces ∧ textOf pieces = query
  | .quoted quote, query => quote = '\'' ∨ quote = '"' → ∃ body closed pieces,
      Legible (.literal quote body closed :: pieces) ∧
        textOf (.literal quote body closed :: pieces) = quote :: query
  | .lineComment, query => ∃ body closed pieces, Legible (.lineComment body closed :: pieces) ∧
      textOf (.lineComment body closed :: pieces) = '-' :: '-' :: query
  | .blockComment, query => ∃ body closed pieces, Legible (.blockComment body closed :: pieces) ∧
      textOf (.blockComment body closed :: pieces) = '/' :: '*' :: query

theorem reads (n : Nat) (region : Region) (query : List Char) : region.Reads query := by
  fun_induction rebindPostgres n region query with
  | case1 n region =>
    cases region with
    | text => exact ⟨[], trivial, rfl⟩
    | quoted quote => exact fun quotes => ⟨[], false, [], ⟨⟨quotes, rfl⟩, trivial⟩, rfl⟩
    | lineComment => exact ⟨[], false, [], ⟨⟨not_mem_nil, fun _ => rfl⟩, trivial⟩, rfl⟩
    | blockComment => exact ⟨[], false, [], ⟨⟨by simp, fun _ => rfl⟩, trivial⟩, rfl⟩
  | case2 n quote rest ih =>
    intro quotes
    obtain ⟨body, closed, pieces, legible, same⟩ := ih quotes
    refine ⟨quote :: body, closed, pieces, legible, ?_⟩
    rw [← same]
    simp [textOf, Piece.text, escaped]
  | case3 n quote d rest apart ih =>
    intro quotes
    obtain ⟨pieces, legible, same⟩ := ih
    have other : (textOf pieces).head? ≠ some quote := by simpa [same] using apart
    exact ⟨[], true, pieces, ⟨⟨quotes, other⟩, legible⟩, congrArg (quote :: quote :: ·) same⟩
  | case4 n quote => exact fun quotes => ⟨[], true, [], ⟨⟨quotes, by simp [textOf]⟩, trivial⟩, rfl⟩
  | case5 n quote c rest apart ih =>
    intro quotes
    obtain ⟨body, closed, pieces, legible, same⟩ := ih quotes
    refine ⟨c :: body, closed, pieces, legible, ?_⟩
    simpa [textOf, Piece.text, escaped, apart] using same
  | case6 n c rest ih =>
    by_cases newline : c = '\n'
    · rw [if_pos newline] at ih
      obtain ⟨pieces, legible, same⟩ := ih
      refine ⟨[], true, pieces, ⟨⟨not_mem_nil, nofun⟩, legible⟩, ?_⟩
      rw [newline]
      exact congrArg ('-' :: '-' :: '\n' :: ·) same
    · rw [if_neg newline] at ih
      obtain ⟨body, closed, pieces, ⟨⟨whole, ends⟩, legible⟩, same⟩ := ih
      refine ⟨c :: body, closed, pieces, ⟨⟨?_, ends⟩, legible⟩, ?_⟩
      · exact mt mem_cons.mp (not_or.mpr ⟨Ne.symm newline, whole⟩)
      · simpa [textOf, Piece.text] using same
  | case7 n rest ih =>
    obtain ⟨pieces, legible, same⟩ := ih
    refine ⟨[], true, pieces, ⟨⟨by simp, nofun⟩, legible⟩, ?_⟩
    exact congrArg ('/' :: '*' :: '*' :: '/' :: ·) same
  | case8 n c rest inside ih =>
    obtain ⟨body, closed, pieces, ⟨⟨whole, ends⟩, legible⟩, same⟩ := ih
    refine ⟨c :: body, closed, pieces, ⟨⟨?_, ends⟩, legible⟩, ?_⟩
    · rw [infix_cons_iff]
      rintro (⟨tail, begins⟩ | inner)
      · obtain ⟨rfl, rfl⟩ := List.cons.inj begins
        exact inside _ rfl (List.cons.inj (List.cons.inj same).2).2.symm
      · exact whole inner
    · simpa [textOf, Piece.text] using same
  | case9 n rest ih =>
    obtain ⟨body, closed, pieces, legible, same⟩ := ih
    exact ⟨_, legible, same⟩
  | case10 n rest ih =>
    obtain ⟨body, closed, pieces, legible, same⟩ := ih
    exact ⟨_, legible, same⟩
  | case11 n rest ih =>
    obtain ⟨pieces, legible, same⟩ := ih
    exact ⟨.doubled :: pieces, ⟨trivial, legible⟩, congrArg ('?' :: '?' :: ·) same⟩
  | case12 n rest single ih =>
    obtain ⟨pieces, legible, same⟩ := ih
    refine ⟨.placeholder :: pieces, ⟨?_, legible⟩, congrArg ('?' :: ·) same⟩
    exact same ▸ head_ne (fun tail (_ : '?' = '?') => single tail) rfl
  | case13 n c rest dashes opens doubled single ih =>
    by_cases quotes : c = '\'' ∨ c = '"'
    · rw [if_pos quotes] at ih
      obtain ⟨body, closed, pieces, legible, same⟩ := ih quotes
      exact ⟨_, legible, same⟩
    · rw [if_neg quotes] at ih
      obtain ⟨pieces, legible, same⟩ := ih
      obtain ⟨not_single, not_double⟩ := not_or.mp quotes
      refine ⟨.plain c :: pieces, ⟨⟨⟨single, not_single, not_double⟩, ?_⟩, legible⟩,
        congrArg (c :: ·) same⟩
      rw [same]
      exact ⟨head_ne dashes, head_ne opens⟩

/-- Every query is made of pieces, and in rebinding it the single question marks outside of literals
and comments become `$1`, `$2`, … and everything else is copied. -/
theorem rebindPostgres_numbers (query : List Char) :
    (∃ pieces, Legible pieces ∧ textOf pieces = query) ∧
      ∀ pieces, Legible pieces → textOf pieces = query →
        rebindPostgres 0 .text query = numbered 0 pieces := by
  refine ⟨reads 0 .text query, ?_⟩
  rintro pieces legible rfl
  exact rebindPostgres_textOf legible

/-- Two question marks in a row are no placeholders. -/
theorem doubled_question_mark_copied :
    rebindPostgres 0 .text ['a', '?', '?', 'b', '?'] = ['a', '?', '?', 'b', '$', '1'] := by
  decide

/-- Rebinding a query again leaves it alone: no placeholder is left in its text, and quotes and
comments are where they were. -/
theorem rebindPostgres_idem (query : List Char) :
    rebindPostgres 0 .text (rebindPostgres 0 .text query) = rebindPostgres 0 .text query :=
  rebindPostgres_settled nofun

end Maintenant.Store
