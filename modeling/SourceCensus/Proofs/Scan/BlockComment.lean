import Mathlib.Data.List.Induction
import Mathlib.Data.List.Infix
import SourceCensus.Proofs.Scan.Course
import SourceCensus.Sequence.Total

/-! # The end of a block comment -/

namespace SourceCensus

namespace Scan

inductive CommentToken where
  | opener
  | closer
  | character
  deriving DecidableEq, Repr

/-- The state after a token that is read at the given depth. -/
def CommentToken.next (depth : Int) : CommentToken → State
  | .opener => .comment (depth + 1)
  | .closer => afterCloser depth
  | .character => .comment depth

/-- The number of closers less the number of openers. -/
def surplus (tokens : List CommentToken) : Int :=
  tokens.count .closer - tokens.count .opener

end Scan

namespace Fence

open Scan (CommentToken)

def token (fence : Fence) (nests : Bool) (text : List Char) : CommentToken :=
  if nests && fence.opener.isPrefixOf text then .opener
  else if fence.closer.isPrefixOf text then .closer
  else .character

def tokenLength (fence : Fence) : CommentToken → Nat
  | .opener => fence.opener.length
  | .closer => fence.closer.length
  | .character => 1

def tokensLength (fence : Fence) (tokens : List CommentToken) : Nat :=
  Sequence.totalNat (tokens.map fence.tokenLength)

/-- The tokens of a text of which the first `skip` characters belong to the token before. -/
def tokensFrom (fence : Fence) (nests : Bool) : Nat → List Char → List CommentToken
  | _, [] => []
  | skip + 1, _ :: more => fence.tokensFrom nests skip more
  | 0, c :: more =>
    let token := fence.token nests (c :: more)
    token :: fence.tokensFrom nests (fence.tokenLength token - 1) more

def tokens (fence : Fence) (nests : Bool) (text : List Char) : List CommentToken :=
  fence.tokensFrom nests 0 text

def tokensOfLines (fence : Fence) (nests : Bool) (lines : List (List Char)) : List CommentToken :=
  lines.flatMap (fence.tokens nests)

end Fence

namespace Scan

section Surplus

variable {ts : List CommentToken} {t : CommentToken} {depth : Int}

@[simp] theorem surplus_nil : surplus [] = 0 := rfl

theorem surplus_append (ts us : List CommentToken) :
    surplus (ts ++ us) = surplus ts + surplus us := by
  simp only [surplus, List.count_append]
  omega

theorem surplus_cons (t : CommentToken) (ts : List CommentToken) :
    surplus (t :: ts) = surplus [t] + surplus ts :=
  surplus_append [t] ts

theorem surplus_singleton_le (t : CommentToken) : surplus [t] ≤ 1 := by
  cases t <;> decide

/-- The surplus grows by one at most, so that it does not get past a number without being equal to
it. -/
theorem surplus_lt_of_forall_ne (hdepth : 0 < depth) (h : ∀ us, us <+: ts → surplus us ≠ depth) :
    surplus ts < depth := by
  induction ts using List.reverseRecOn with
  | nil => exact hdepth
  | append_singleton ts t ih =>
    have hbefore := ih fun us hus => h us (hus.trans (List.prefix_append _ _))
    have hstep := surplus_singleton_le t
    have hne := h _ List.prefix_rfl
    rw [surplus_append] at hne ⊢
    omega

theorem next_of_surplus_lt (h : surplus [t] < depth) :
    t.next depth = .comment (depth - surplus [t]) := by
  cases t with
  | opener => simp [CommentToken.next, surplus]
  | closer =>
    have h : 1 < depth := h
    simp [CommentToken.next, surplus, afterCloser, Int.not_le.mpr h]
  | character => simp [CommentToken.next, surplus]

/-- Only a closer can make the surplus reach the depth. -/
theorem next_of_surplus_eq (hdepth : 0 < depth) (h : surplus [t] = depth) :
    t.next depth = .normal := by
  cases t with
  | opener => exact absurd (h ▸ hdepth) (by decide)
  | closer =>
    obtain rfl : 1 = depth := h
    rfl
  | character => exact absurd (h ▸ hdepth) (by decide)

end Surplus

section Tokens

variable {fence : Fence} {nests : Bool} {text : List Char} {ts : List CommentToken}

@[simp] theorem Fence.tokens_nil (fence : Fence) (nests : Bool) : fence.tokens nests [] = [] := rfl

@[simp] theorem Fence.tokensLength_nil (fence : Fence) : fence.tokensLength [] = 0 := rfl

@[simp] theorem Fence.tokensLength_cons (fence : Fence) (t : CommentToken)
    (ts : List CommentToken) :
    fence.tokensLength (t :: ts) = fence.tokenLength t + fence.tokensLength ts := rfl

@[simp] theorem Fence.tokensLength_append (fence : Fence) (ts us : List CommentToken) :
    fence.tokensLength (ts ++ us) = fence.tokensLength ts + fence.tokensLength us := by
  induction ts with
  | nil => simp
  | cons t ts ih => simp [ih, Nat.add_assoc]

theorem Fence.tokensFrom_eq (fence : Fence) (nests : Bool) (skip : Nat) (text : List Char) :
    fence.tokensFrom nests skip text = fence.tokens nests (text.drop skip) := by
  induction text generalizing skip with
  | nil => simp [Fence.tokensFrom]
  | cons c more ih =>
    cases skip with
    | zero => rfl
    | succ skip => simpa [Fence.tokensFrom] using ih skip

theorem Fence.tokenLength_pos (hsolid : fence.Solid) (t : CommentToken) :
    0 < fence.tokenLength t := by
  cases t with
  | opener => exact List.length_pos_of_ne_nil hsolid.1
  | closer => exact List.length_pos_of_ne_nil hsolid.2
  | character => exact Nat.one_pos

theorem Fence.tokens_cons (hsolid : fence.Solid) (c : Char) (text : List Char) :
    fence.tokens nests (c :: text) = fence.token nests (c :: text) :: fence.tokens nests
      ((c :: text).drop (fence.tokenLength (fence.token nests (c :: text)))) := by
  obtain ⟨n, hn⟩ := Nat.exists_eq_add_one.mpr
    (Fence.tokenLength_pos hsolid (fence.token nests (c :: text)))
  rw [hn, List.drop_succ_cons, Fence.tokens, Fence.tokensFrom, Fence.tokensFrom_eq, hn]
  rfl

theorem Fence.length_le_tokensLength (hsolid : fence.Solid) (skip : Nat) (text : List Char) :
    text.length ≤ skip + fence.tokensLength (fence.tokensFrom nests skip text) := by
  induction text generalizing skip with
  | nil => exact Nat.zero_le _
  | cons c more ih =>
    cases skip with
    | zero =>
      have hpos := Fence.tokenLength_pos hsolid (fence.token nests (c :: more))
      have hmore := ih (fence.tokenLength (fence.token nests (c :: more)) - 1)
      simp only [Fence.tokensFrom, Fence.tokensLength_cons, List.length_cons]
      omega
    | succ skip =>
      have hmore := ih skip
      simp only [Fence.tokensFrom, List.length_cons]
      omega

theorem Fence.tokens_eq_append (hsolid : fence.Solid) (h : ts <+: fence.tokens nests text) :
    fence.tokens nests text =
      ts ++ fence.tokens nests (text.drop (fence.tokensLength ts)) := by
  induction ts generalizing text with
  | nil => rfl
  | cons t ts ih =>
    cases text with
    | nil => simp at h
    | cons c more =>
      rw [Fence.tokens_cons hsolid] at h ⊢
      obtain ⟨rfl, hts⟩ := List.cons_prefix_cons.mp h
      rw [ih hts, List.drop_drop, Fence.tokensLength_cons, List.cons_append]

theorem Fence.opener_not_mem_tokens (fence : Fence) (text : List Char) :
    .opener ∉ fence.tokens false text := by
  have h (skip : Nat) (text : List Char) : .opener ∉ fence.tokensFrom false skip text := by
    induction text generalizing skip with
    | nil => simp [Fence.tokensFrom]
    | cons c more ih =>
      cases skip with
      | zero =>
        simp only [Fence.tokensFrom, List.mem_cons, not_or]
        refine ⟨?_, ih _⟩
        simp only [Fence.token, Bool.false_and, Bool.false_eq_true, if_false]
        split_ifs <;> simp
      | succ skip => exact ih skip
  exact h 0 text

end Tokens

section Run

variable {lexis : Lexis} {fence : Fence} {text line : List Char} {ts : List CommentToken}
  {t : CommentToken} {depth : Int}

/-- A step inside a block comment reads one token. -/
theorem stepComment_eq (hblock : lexis.block = some fence) (depth : Int) (text : List Char) :
    let s := stepComment lexis depth text
    let t := fence.token lexis.nests text
    s.advance = fence.tokenLength t ∧ s.stop = false ∧
      (⟨.comment depth, false, true⟩ : Progress).after s = ⟨t.next depth, false, true⟩ := by
  simp only [stepComment, hblock, Fence.token]
  split_ifs <;> exact ⟨rfl, rfl, rfl⟩

theorem reaches_token (hblock : lexis.block = some fence) (depth : Int) (c : Char)
    (more : List Char) :
    Reaches lexis ⟨.comment depth, false, true⟩ (c :: more)
      ⟨(fence.token lexis.nests (c :: more)).next depth, false, true⟩
      ((c :: more).drop (fence.tokenLength (fence.token lexis.nests (c :: more)))) := by
  obtain ⟨hadvance, hgo, hafter⟩ := stepComment_eq hblock depth (c :: more)
  rw [← hadvance, ← hafter]
  exact .head rfl hgo (.refl _ _)

/-- The comment goes on over tokens that never make the surplus reach its depth. -/
theorem reaches_of_surplus_lt (hblock : lexis.block = some fence) (hsolid : fence.Solid)
    (hts : ts <+: fence.tokens lexis.nests text) (hdepth : ∀ us, us <+: ts → surplus us < depth) :
    Reaches lexis ⟨.comment depth, false, true⟩ text ⟨.comment (depth - surplus ts), false, true⟩
      (text.drop (fence.tokensLength ts)) := by
  induction ts generalizing text depth with
  | nil => simpa using Reaches.refl _ _
  | cons t ts ih =>
    cases text with
    | nil => simp at hts
    | cons c more =>
      rw [Fence.tokens_cons hsolid] at hts
      obtain ⟨rfl, hrest⟩ := List.cons_prefix_cons.mp hts
      have hfirst := reaches_token hblock depth c more
      rw [next_of_surplus_lt (hdepth _ (by simp))] at hfirst
      have hless : ∀ us, us <+: ts →
          surplus us < depth - surplus [fence.token lexis.nests (c :: more)] := by
        intro us hus
        have hlt := hdepth _ (List.cons_prefix_cons.mpr ⟨rfl, hus⟩)
        rw [surplus_cons] at hlt
        omega
      have hmore := ih hrest hless
      rw [List.drop_drop, Int.sub_sub, ← surplus_cons, ← Fence.tokensLength_cons] at hmore
      exact hfirst.trans hmore

/-- Where the surplus has not reached the depth, the next token is read in the comment. -/
theorem reaches_of_next (hblock : lexis.block = some fence) (hsolid : fence.Solid)
    (hts : ts ++ [t] <+: fence.tokens lexis.nests text)
    (hdepth : ∀ us, us <+: ts → surplus us < depth) :
    Reaches lexis ⟨.comment depth, false, true⟩ text ⟨t.next (depth - surplus ts), false, true⟩
      (text.drop (fence.tokensLength (ts ++ [t]))) := by
  have hbefore := (List.prefix_append ts [t]).trans hts
  have hlast := reaches_of_surplus_lt hblock hsolid hbefore hdepth
  rw [Fence.tokens_eq_append hsolid hbefore, List.prefix_append_right_inj] at hts
  rw [Fence.tokensLength_append, ← List.drop_drop]
  cases hrest : text.drop (fence.tokensLength ts) with
  | nil => simp [hrest] at hts
  | cons c more =>
    rw [hrest] at hlast hts
    rw [Fence.tokens_cons hsolid] at hts
    obtain ⟨rfl, -⟩ := List.cons_prefix_cons.mp hts
    simpa using hlast.trans (reaches_token hblock _ c more)

/-- A line that does not make the surplus reach the depth is comment. -/
theorem classifyLine_of_surplus_lt (hblock : lexis.block = some fence) (hsolid : lexis.FencesSolid)
    (hdepth : ∀ us, us <+: fence.tokens lexis.nests line → surplus us < depth) :
    classifyLine lexis (.comment depth) line =
      (.comment, .comment (depth - surplus (fence.tokens lexis.nests line))) := by
  have hfence := hsolid.block hblock
  have hreaches := reaches_of_surplus_lt hblock hfence List.prefix_rfl hdepth
  have hlength : line.length ≤ fence.tokensLength (fence.tokens lexis.nests line) := by
    simpa [Fence.tokens] using Fence.length_le_tokensLength hfence 0 line
  rw [List.drop_eq_nil_of_le hlength] at hreaches
  rw [classifyLine_eq_scanned hsolid _ _ (.inr rfl)]
  change ((scanned lexis ⟨.comment depth, false, true⟩ line).kind,
    (scanned lexis ⟨.comment depth, false, true⟩ line).state.atLineEnd) = _
  rw [hreaches.scanned_eq hsolid]
  rfl

/-- The comment goes on over lines that never make the surplus reach its depth. -/
theorem stateAfter_of_surplus_lt (hblock : lexis.block = some fence) (hsolid : lexis.FencesSolid)
    {lines : List (List Char)}
    (hdepth : ∀ us, us <+: fence.tokensOfLines lexis.nests lines → surplus us < depth) :
    stateAfter lexis (.comment depth) lines =
      .comment (depth - surplus (fence.tokensOfLines lexis.nests lines)) := by
  induction lines generalizing depth with
  | nil => simp [stateAfter, Fence.tokensOfLines]
  | cons line lines ih =>
    rw [Fence.tokensOfLines, List.flatMap_cons] at hdepth ⊢
    have hline := classifyLine_of_surplus_lt hblock hsolid
      fun us hus => hdepth us (hus.trans (List.prefix_append _ _))
    rw [stateAfter_cons, hline, ih, surplus_append, Int.sub_sub, Fence.tokensOfLines]
    intro us hus
    have hlt := hdepth _ ((List.prefix_append_right_inj _).mpr hus)
    rw [surplus_append] at hlt
    omega

end Run

section Balance

variable {lexis : Lexis} {fence : Fence} {d : Int} {before : List (List Char)} {line : List Char}
  {ts : List CommentToken} {t : CommentToken}

/-- What a surplus below `d` says of the lines before and of the tokens of a line after them. -/
theorem surplus_lt_split (hblock : lexis.block = some fence) (hsolid : lexis.FencesSolid)
    (hdepth : ∀ us, us <+: fence.tokensOfLines lexis.nests before ++ ts → surplus us < d) :
    stateAfter lexis (.comment d) before =
        .comment (d - surplus (fence.tokensOfLines lexis.nests before)) ∧
      ∀ us, us <+: ts → surplus us < d - surplus (fence.tokensOfLines lexis.nests before) := by
  refine ⟨stateAfter_of_surplus_lt hblock hsolid fun us hus =>
    hdepth us (hus.trans (List.prefix_append _ _)), fun us hus => ?_⟩
  have hlt := hdepth _ ((List.prefix_append_right_inj _).mpr hus)
  rw [surplus_append] at hlt
  omega

/-- Where the surplus has not reached `d` on the lines before and on the line, the next token is
read in the comment, and the line is what its scan from there gives. -/
theorem next_on_line (hblock : lexis.block = some fence) (hsolid : lexis.FencesSolid)
    (hts : ts ++ [t] <+: fence.tokens lexis.nests line)
    (hdepth : ∀ us, us <+: fence.tokensOfLines lexis.nests before ++ ts → surplus us < d) :
    let start := stateAfter lexis (.comment d) before
    let rest := line.drop (fence.tokensLength (ts ++ [t]))
    let p : Progress :=
      ⟨t.next (d - surplus (fence.tokensOfLines lexis.nests before ++ ts)), false, true⟩
    Reaches lexis (.atStart start) line p rest ∧ classifyLine lexis start line =
      ((scanned lexis p rest).kind, (scanned lexis p rest).state.atLineEnd) := by
  intro start rest p
  obtain ⟨hstart, hline⟩ := surplus_lt_split hblock hsolid hdepth
  have hreaches : Reaches lexis (.atStart start) line p rest := by
    simp only [start, p, hstart, surplus_append, ← Int.sub_sub]
    exact reaches_of_next hblock (hsolid.block hblock) hts hline
  have hopen : start.inComment = true := by
    simp only [start, hstart, State.inComment]
  refine ⟨hreaches, ?_⟩
  rw [classifyLine_eq_scanned hsolid start line (.inr hopen), hreaches.scanned_eq hsolid]

/-- The token that makes the surplus reach `d` gets out of the comment. -/
theorem next_of_first_balance (hd : 1 ≤ d) (heq : surplus (ts ++ [t]) = d)
    (hne : ∀ us, us <+: ts → surplus us ≠ d) :
    (∀ us, us <+: ts → surplus us < d) ∧ t.next (d - surplus ts) = .normal := by
  have hdepth : ∀ us, us <+: ts → surplus us < d := fun us hus =>
    surplus_lt_of_forall_ne (by omega) fun vs hvs => hne vs (hvs.trans hus)
  have hbefore := hdepth ts List.prefix_rfl
  rw [surplus_append] at heq
  exact ⟨hdepth, next_of_surplus_eq (by omega) (by omega)⟩

/-- Where no token is an opener and none so far is a closer, there is no surplus. -/
theorem next_of_first_closer (hd : 1 ≤ d) (hopener : .opener ∉ ts) (hcloser : .closer ∉ ts) :
    (∀ us, us <+: ts → surplus us < d) ∧
      CommentToken.next (d - surplus ts) .closer = afterCloser d := by
  have hzero {us : List CommentToken} (hus : us <+: ts) : surplus us = 0 := by
    simp [surplus, List.count_eq_zero_of_not_mem fun h => hopener (hus.subset h),
      List.count_eq_zero_of_not_mem fun h => hcloser (hus.subset h)]
  refine ⟨fun us hus => by rw [hzero hus]; omega, ?_⟩
  rw [hzero List.prefix_rfl, Int.sub_zero]
  rfl

/-- A block comment ends exactly where its markers balance.  It has depth `d` before the lines
`before`.  The following `line` is comment and leaves the comment open if up to its end there are
never `d` closers more than openers.  Otherwise the scanner is outside of strings and comments right
after the first token that makes them `d` more, and what the line is depends on the rest of it,
which counts for nothing if it is blank.  Where comments do not nest, openers do not count, and the
first closer closes a comment, the last one if `d` is 1. -/
theorem block_comment_ends_at_balance (hblock : lexis.block = some fence)
    (hvisible : lexis.MarkersVisible) (hd : 1 ≤ d) (before : List (List Char)) (line : List Char)
    (after : List (List Char)) :
    let entry := (trace lexis (.comment d) (before ++ line :: after))[before.length]?
    let start := stateAfter lexis (.comment d) before
    let tokensBefore := fence.tokensOfLines lexis.nests before
    let tokens := fence.tokens lexis.nests line
    ((∀ ts, ts <+: tokensBefore ++ tokens → surplus ts < d) →
      entry = some (.comment, .comment (d - surplus (tokensBefore ++ tokens)))) ∧
    (∀ ts t, ts ++ [t] <+: tokens → surplus (tokensBefore ++ ts ++ [t]) = d →
      (∀ us, us <+: tokensBefore ++ ts → surplus us ≠ d) →
        let rest := line.drop (fence.tokensLength (ts ++ [t]))
        let atBalance : Progress := ⟨.normal, false, true⟩
        Reaches lexis (.atStart start) line atBalance rest ∧
        entry = some ((scanned lexis atBalance rest).kind,
          (scanned lexis atBalance rest).state.atLineEnd) ∧
        ((∀ c ∈ rest, isAsciiBlank c = true) → entry = some (.comment, .normal))) ∧
    (lexis.nests = false → .opener ∉ tokensBefore ++ tokens ∧
      ∀ ts, ts ++ [.closer] <+: tokens → .closer ∉ tokensBefore ++ ts →
        Reaches lexis (.atStart start) line ⟨afterCloser d, false, true⟩
          (line.drop (fence.tokensLength (ts ++ [.closer])))) := by
  intro entry start tokensBefore tokens
  have hsolid := hvisible.fencesSolid
  have hentry : entry = some (classifyLine lexis start line) := trace_getElem?_length ..
  refine ⟨fun hdepth => ?_, ?_, fun hnests => ?_⟩
  · obtain ⟨hstart, hline⟩ := surplus_lt_split hblock hsolid hdepth
    have hclass := classifyLine_of_surplus_lt hblock hsolid hline
    rw [hentry, surplus_append, ← Int.sub_sub]
    exact congrArg some ((congrArg (classifyLine lexis · line) hstart).trans hclass)
  · intro ts t hts heq hne rest atBalance
    obtain ⟨hdepth, hnormal⟩ := next_of_first_balance hd heq hne
    obtain ⟨hreaches, hclass⟩ := next_on_line hblock hsolid hts hdepth
    rw [hnormal] at hreaches hclass
    refine ⟨hreaches, hentry.trans (congrArg some hclass), fun hblank => ?_⟩
    rw [hentry, hclass, scanned_blank hvisible rfl hblank]
    rfl
  · have hopener : .opener ∉ tokensBefore ++ tokens := by
      simp only [tokensBefore, tokens, Fence.tokensOfLines, hnests, List.mem_append,
        List.mem_flatMap, Fence.opener_not_mem_tokens, and_false, exists_false, or_self,
        not_false_eq_true]
    refine ⟨hopener, fun ts hts hcloser => ?_⟩
    have hread : tokensBefore ++ ts <+: tokensBefore ++ tokens :=
      (List.prefix_append_right_inj _).mpr ((List.prefix_append _ _).trans hts)
    obtain ⟨hdepth, hnext⟩ :=
      next_of_first_closer hd (fun h => hopener (hread.subset h)) hcloser
    have hreaches := (next_on_line hblock hsolid hts hdepth).1
    rw [hnext] at hreaches
    exact hreaches

def nestedStars : Lexis :=
  { lineMarkers := [Language.slashes], block := some Language.starred, nests := true }

def flatStars : Lexis :=
  { lineMarkers := [Language.slashes], block := some Language.starred }

/-- A line that opens a block comment or closes one, depending on whether they nest. -/
def crossedLine : List Char :=
  ['/', '*', '/', ' ', '"']

def closingLine : List Char :=
  ['*', '/', ' ', '*', '/', ' ']

/-- Where comments nest, the crossed line opens another comment, the blank line after it is comment,
and it takes both closers to get out; where they do not, the crossed line ends the comment. -/
theorem crossedLine_ends_at_balance :
    (trace nestedStars (.comment 1) [crossedLine, [' '], closingLine])[1]? =
      some (.comment, .comment 2) ∧
    Reaches nestedStars (.atStart (.comment 2)) closingLine ⟨.normal, false, true⟩ [' '] ∧
    (trace nestedStars (.comment 1) [crossedLine, [' '], closingLine])[2]? =
      some (.comment, .normal) ∧
    Reaches flatStars (.atStart (.comment 1)) crossedLine ⟨.normal, false, true⟩ [' ', '"'] := by
  have hnested : nestedStars.block = some Language.starred := rfl
  have hd : (1 : Int) ≤ 1 := Int.le_refl 1
  have hbelow : ∀ ts ∈ (Language.starred.tokensOfLines true [crossedLine] ++
      Language.starred.tokens true [' ']).inits, surplus ts < 1 := by decide
  have hbefore : ∀ ts ∈ (Language.starred.tokensOfLines true [crossedLine, [' ']] ++
      [CommentToken.closer, .character]).inits, surplus ts ≠ 1 := by decide
  have hopen := (block_comment_ends_at_balance hnested (by decide) hd [crossedLine] [' ']
    [closingLine]).1 fun ts hts => hbelow ts ((List.mem_inits _ _).mpr hts)
  obtain ⟨hreaches, -, hclosed⟩ := (block_comment_ends_at_balance hnested (by decide) hd
    [crossedLine, [' ']] closingLine []).2.1 [.closer, .character] .closer (by decide) (by decide)
    fun us hus => hbefore us ((List.mem_inits _ _).mpr hus)
  have hflat : flatStars.block = some Language.starred := rfl
  have hfirst := ((block_comment_ends_at_balance hflat (by decide) hd [] crossedLine []).2.2 rfl).2
    [.character] (by decide) (by decide)
  have hrest : ∀ c ∈ [' '], isAsciiBlank c = true := by simp [isAsciiBlank]
  exact ⟨hopen, hreaches, hclosed hrest, hfirst⟩

end Balance

end Scan

end SourceCensus
