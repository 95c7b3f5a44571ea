import Keystroke.Session
import Mathlib.Data.List.Infix

namespace Keystroke

/-- The segments of a text, between full stops. -/
def segments (t : Text) : List Text :=
  t.splitOn '.'

/-- The kind stands in the scope as whole segments, `n` characters from its start. -/
def RunAt (kind scope : Text) (n : Nat) : Prop :=
  ∃ before after, scope = before ++ kind ++ after ∧ before.length = n ∧
    (∀ c ∈ before.getLast?, c = '.') ∧ ∀ c ∈ after.head?, c = '.'

/-- An occurrence of the kind that overlaps no counted one before it. -/
def Counted (kind scope : Text) (n : Nat) : Prop :=
  kind <+: scope.drop n ∧ ∀ m, m < n → n < m + kind.length → ¬ Counted kind scope m
termination_by n

/-- The kind can begin again at a segment of itself other than the first. -/
def OverlapsItself (kind : Text) : Prop :=
  ∃ front back, kind = front ++ '.' :: back ∧ back ≠ [] ∧ back <+: kind

theorem overlapsItself_iff {kind : Text} :
    OverlapsItself kind ↔
      ∃ back ∈ kind.tails, back ≠ [] ∧ back <+: kind ∧ '.' :: back <:+ kind := by
  constructor
  · rintro ⟨front, back, hkind, hne, hpre⟩
    have hsuffix : '.' :: back <:+ kind := ⟨front, hkind.symm⟩
    have htail := (List.mem_tails back kind).mpr ((List.suffix_cons '.' back).trans hsuffix)
    exact ⟨back, htail, hne, hpre, hsuffix⟩
  · rintro ⟨back, _, hne, hpre, front, hkind⟩
    exact ⟨front, back, hkind.symm, hne, hpre⟩

instance (kind : Text) : Decidable (OverlapsItself kind) :=
  decidable_of_iff _ overlapsItself_iff.symm

/-- A scope of the token has the segments of one of the kinds as a run. -/
def Token.HasRun (t : Token) (kinds : List Text) : Prop :=
  ∃ scope ∈ words t.type, ∃ kind ∈ kinds, kind ≠ [] ∧ segments kind <:+: segments scope

/-- A counted occurrence of one of the kinds is such a run. -/
def Token.HasCountedRun (t : Token) (kinds : List Text) : Prop :=
  ∃ scope ∈ words t.type, ∃ kind ∈ kinds, kind ≠ [] ∧
    ∃ n, Counted kind scope n ∧ RunAt kind scope n

section Runs

variable {before t after : Text}

theorem segments_before (hbefore : ∀ c ∈ before.getLast?, c = '.') :
    ∃ front, segments (before ++ t) = front ++ segments t := by
  rcases List.eq_nil_or_concat' before with rfl | ⟨kept, c, rfl⟩
  · exact ⟨[], rfl⟩
  · obtain rfl := hbefore c (by simp)
    refine ⟨segments kept, ?_⟩
    rw [List.append_assoc, List.singleton_append]
    exact List.splitOn_append_cons_self kept t

theorem segments_after (hafter : ∀ c ∈ after.head?, c = '.') :
    ∃ back, segments (t ++ after) = segments t ++ back := by
  cases after with
  | nil => exact ⟨[], by simp⟩
  | cons c rest =>
    obtain rfl := hafter c rfl
    exact ⟨segments rest, List.splitOn_append_cons_self t rest⟩

/-- Texts that are joined by full stops. -/
def joined (parts : List Text) : Text :=
  ['.'].intercalate parts

theorem joined_segments (t : Text) : joined (segments t) = t :=
  List.intercalate_splitOn '.'

theorem joined_append {front back : List Text} (hfront : front ≠ []) (hback : back ≠ []) :
    joined (front ++ back) = joined front ++ '.' :: joined back := by
  induction front with
  | nil => exact absurd rfl hfront
  | cons part front ih =>
    cases front with
    | nil => simp [joined, List.intercalate_cons_of_ne_nil hback]
    | cons next front =>
      have h := ih (List.cons_ne_nil next front)
      simp only [joined, List.cons_append, List.intercalate_cons_cons] at h ⊢
      rw [h]
      simp

theorem joined_before (front : List Text) (parts : List Text) (hparts : parts ≠ []) :
    ∃ before, joined (front ++ parts) = before ++ joined parts ∧
      ∀ c ∈ before.getLast?, c = '.' := by
  by_cases hfront : front = []
  · exact ⟨[], by simp [hfront], by simp⟩
  · exact ⟨joined front ++ ['.'], by simp [joined_append hfront hparts], by simp⟩

theorem joined_after {parts : List Text} (hparts : parts ≠ []) (back : List Text) :
    ∃ after, joined (parts ++ back) = joined parts ++ after ∧ ∀ c ∈ after.head?, c = '.' := by
  by_cases hback : back = []
  · exact ⟨[], by simp [hback], by simp⟩
  · exact ⟨'.' :: joined back, joined_append hparts hback, by simp⟩

/-- The segments of the kind are a run of those of the scope just if the kind stands in the scope
between full stops or the ends. -/
theorem segments_infix_iff {kind scope : Text} :
    segments kind <:+: segments scope ↔ ∃ n, RunAt kind scope n := by
  constructor
  · rintro ⟨front, back, h⟩
    have hne : segments kind ≠ [] := List.splitOn_ne_nil '.' kind
    obtain ⟨before, hb, hlast⟩ := joined_before front (segments kind ++ back) (by simp [hne])
    obtain ⟨after, ha, hhead⟩ := joined_after hne back
    refine ⟨before.length, before, after, ?_, rfl, hlast, hhead⟩
    rw [← joined_segments scope, ← h, List.append_assoc, hb, ha, joined_segments,
      List.append_assoc]
  · rintro ⟨_, before, after, rfl, _, hlast, hhead⟩
    rw [List.append_assoc]
    obtain ⟨front, hf⟩ := segments_before (t := kind ++ after) hlast
    obtain ⟨back, hb⟩ := segments_after (t := kind) hhead
    exact ⟨front, back, by rw [hf, hb, List.append_assoc]⟩

end Runs

section Search

variable {kind scope done rest : Text} {c : Char} {blocked : Nat} {atStart : Bool}

/-- What the search knows between two parts of a scope: whether a segment starts here, and how far
the counted occurrences in the first part reach into the second. -/
structure Scanned (kind scope done rest : Text) (blocked : Nat) (atStart : Bool) : Prop where
  parts : scope = done ++ rest
  start : atStart = true ↔ ∀ c ∈ done.getLast?, c = '.'
  reach : ∀ n, done.length ≤ n →
    ((∃ m < done.length, n < m + kind.length ∧ Counted kind scope m) ↔ n < done.length + blocked)

theorem Scanned.initial (kind scope : Text) : Scanned kind scope [] scope 0 true where
  parts := rfl
  start := by simp
  reach := by simp

theorem Scanned.counted_iff (h : Scanned kind scope done rest blocked atStart) :
    Counted kind scope done.length ↔ blocked = 0 ∧ kind <+: rest := by
  have hreach := h.reach done.length (Nat.le_refl _)
  have hdrop : scope.drop done.length = rest := by
    rw [h.parts, List.drop_left]
  rw [Counted, hdrop]
  constructor
  · rintro ⟨hpre, hfree⟩
    refine ⟨?_, hpre⟩
    by_contra hblocked
    obtain ⟨m, hm, hlt, hcounted⟩ := hreach.mpr (by omega)
    exact hfree m hm hlt hcounted
  · rintro ⟨rfl, hpre⟩
    refine ⟨hpre, ?_⟩
    intro m hm hlt hcounted
    have hlt' := hreach.mp ⟨m, hm, hlt, hcounted⟩
    omega

/-- One character on, the search is blocked by an occurrence counted here, or by what blocked it
before. -/
theorem Scanned.next (h : Scanned kind scope done (c :: rest) blocked atStart) (blocked' : Nat)
    (hcounted : Counted kind scope done.length → blocked' = kind.length - 1)
    (hpassed : ¬ Counted kind scope done.length → blocked' = blocked - 1) :
    Scanned kind scope (done ++ [c]) rest blocked' (c = '.') where
  parts := by simp [h.parts]
  start := by simp
  reach := by
    intro n hn
    rw [List.length_append, List.length_singleton] at hn ⊢
    rw [Nat.exists_lt_succ_right, h.reach n (by omega)]
    by_cases hc : Counted kind scope done.length
    · have hblocked := (h.counted_iff.mp hc).1
      have hblocked' := hcounted hc
      simp only [hc, and_true]
      omega
    · have hblocked' := hpassed hc
      simp only [hc, and_false, or_false]
      omega

theorem Scanned.runAt_iff (h : Scanned kind scope done rest blocked atStart)
    (hpre : kind <+: rest) :
    RunAt kind scope done.length ↔
      atStart = true ∧ (rest.drop kind.length).head?.all (· = '.') = true := by
  obtain ⟨after, rfl⟩ := hpre
  have hscope : scope = done ++ kind ++ after := by rw [h.parts, List.append_assoc]
  rw [List.drop_left, h.start]
  simp only [Option.all_eq_true, decide_eq_true_eq]
  constructor
  · rintro ⟨before, after', hscope', hlength, hlast, hhead⟩
    rw [hscope, List.append_assoc, List.append_assoc] at hscope'
    obtain ⟨rfl, hrest⟩ := List.append_inj hscope' hlength.symm
    obtain rfl : after = after' := List.append_cancel_left hrest
    exact ⟨hlast, hhead⟩
  · rintro ⟨hlast, hhead⟩
    exact ⟨done, after, hscope, rfl, hlast, hhead⟩

/-- A step of the search: a counted occurrence that is a run stands here, or the search finds one
after this character. -/
theorem Scanned.hasSegments_cons (h : Scanned kind scope done (c :: rest) blocked atStart) :
    ∃ blocked', Scanned kind scope (done ++ [c]) rest blocked' (c = '.') ∧
      (hasSegments kind blocked atStart (c :: rest) = true ↔
        (Counted kind scope done.length ∧ RunAt kind scope done.length) ∨
          hasSegments kind blocked' (c = '.') rest = true) := by
  have hcons := h.counted_iff
  cases blocked with
  | succ blocked =>
    have hc : ¬ Counted kind scope done.length := fun hc => by simpa using (hcons.mp hc).1
    refine ⟨blocked, h.next blocked (fun hc' => absurd hc' hc) (fun _ => rfl), ?_⟩
    rw [hasSegments]
    simp only [hc, false_and, false_or]
  | zero =>
    by_cases hpre : kind <+: c :: rest
    · have hc : Counted kind scope done.length := hcons.mpr ⟨rfl, hpre⟩
      refine ⟨kind.length - 1, h.next _ (fun _ => rfl) (fun hc' => absurd hc hc'), ?_⟩
      rw [hasSegments, if_pos (List.isPrefixOf_iff_prefix.mpr hpre), h.runAt_iff hpre]
      simp only [hc, true_and, Bool.or_eq_true, Bool.and_eq_true]
    · have hc : ¬ Counted kind scope done.length := fun hc => hpre (hcons.mp hc).2
      have hpre' : ¬ kind.isPrefixOf (c :: rest) = true :=
        fun hpre' => hpre (List.isPrefixOf_iff_prefix.mp hpre')
      refine ⟨0, h.next 0 (fun hc' => absurd hc' hc) (fun _ => rfl), ?_⟩
      rw [hasSegments, if_neg hpre']
      simp only [hc, false_and, false_or]

/-- The search finds the counted occurrences that are runs. -/
theorem Scanned.hasSegments_iff (hkind : kind ≠ [])
    (h : Scanned kind scope done rest blocked atStart) :
    hasSegments kind blocked atStart rest = true ↔
      ∃ n, done.length ≤ n ∧ Counted kind scope n ∧ RunAt kind scope n := by
  induction rest generalizing done blocked atStart with
  | nil =>
    simp only [hasSegments, Bool.false_eq_true, false_iff]
    rintro ⟨n, hn, hcounted, _⟩
    rw [Counted, h.parts, List.append_nil, List.drop_eq_nil_of_le hn] at hcounted
    exact hkind (List.prefix_nil.mp hcounted.1)
  | cons c rest ih =>
    obtain ⟨blocked', hnext, hstep⟩ := h.hasSegments_cons
    rw [hstep, ih hnext, List.length_append, List.length_singleton]
    constructor
    · rintro (hhere | ⟨n, hn, hlater⟩)
      · exact ⟨done.length, Nat.le_refl _, hhere⟩
      · exact ⟨n, by omega, hlater⟩
    · rintro ⟨n, hn, hfound⟩
      rcases Nat.eq_or_lt_of_le hn with rfl | hlt
      · exact Or.inl hfound
      · exact Or.inr ⟨n, hlt, hfound⟩

/-- A scope has a kind just if a counted occurrence of it is a run. -/
theorem scopeHasKind_iff :
    scopeHasKind scope kind = true ↔
      kind ≠ [] ∧ ∃ n, Counted kind scope n ∧ RunAt kind scope n := by
  simp only [scopeHasKind, Bool.and_eq_true, decide_eq_true_eq]
  refine and_congr_right ?_
  intro hkind
  simpa using (Scanned.initial kind scope).hasSegments_iff hkind

end Search

section Overlap

variable {kind scope : Text} {n : Nat}

/-- Nothing hides a run of a kind that cannot begin again inside itself. -/
theorem counted_of_runAt (hkind : ¬ OverlapsItself kind) (hrun : RunAt kind scope n) :
    Counted kind scope n := by
  obtain ⟨before, after, rfl, rfl, hlast, _⟩ := hrun
  rw [Counted]
  refine ⟨by simp, ?_⟩
  intro m hm hlt hcounted
  rw [Counted] at hcounted
  obtain ⟨⟨more, hmore⟩, _⟩ := hcounted
  rcases List.eq_nil_or_concat' before with rfl | ⟨kept, c, rfl⟩
  · simp at hm
  obtain rfl := hlast c (by simp)
  simp only [List.length_append, List.length_singleton] at hm hlt
  -- the occurrence at `m` goes on over the full stop in front of the run
  have hsame : kind ++ more = kept.drop m ++ ['.'] ++ (kind ++ after) := by
    rw [hmore, List.append_assoc, List.append_assoc, List.append_assoc,
      List.drop_append_of_le_length (by omega)]
  obtain ⟨back, hback⟩ : kept.drop m ++ ['.'] <+: kind :=
    List.prefix_of_prefix_length_le ⟨_, hsame.symm⟩ ⟨_, rfl⟩ (by simp; omega)
  have hlength : kind.length = kept.length - m + 1 + back.length := by
    rw [← hback]
    simp
    omega
  refine hkind ⟨kept.drop m, back, by simpa using hback.symm, ?_, ?_⟩
  · rintro rfl
    simp only [List.length_nil] at hlength
    omega
  · nth_rewrite 1 [← hback] at hsame
    rw [List.append_assoc] at hsame
    exact List.prefix_of_prefix_length_le ⟨more, List.append_cancel_left hsame⟩ ⟨after, rfl⟩
      (by omega)

theorem eq_of_prefix_cons {kind t : Text} {x : Char} (hcons : kind <+: x :: t) (h : kind <+: t) :
    ∀ c ∈ kind, c = x := by
  induction kind generalizing t with
  | nil => simp
  | cons c kind ih =>
    obtain ⟨rfl, hkind⟩ := List.cons_prefix_cons.mp hcons
    obtain ⟨rest, rfl⟩ := h
    have hrest := ih hkind ⟨rest, rfl⟩
    simpa using hrest

/-- A kind that can begin again inside itself has a scope in which its only run is hidden. -/
theorem OverlapsItself.missed (h : OverlapsItself kind) :
    ∃ scope, (∀ c ∈ scope, c = 'x' ∨ c ∈ kind) ∧ (∃ n, RunAt kind scope n) ∧
      ¬ ∃ n, Counted kind scope n ∧ RunAt kind scope n := by
  obtain ⟨front, back, hkind, hback, rest, hrest⟩ := h
  have hstop : '.' ∈ kind := by simp [hkind]
  have hagain : kind <+: front ++ '.' :: kind := by
    refine ⟨rest, ?_⟩
    nth_rewrite 1 [hkind]
    rw [← hrest]
    simp
  -- at the start, where the letter stands in front, the kind would consist of that letter alone
  have hzero : ¬ Counted kind ('x' :: (front ++ '.' :: kind)) 0 := by
    rw [Counted]
    rintro ⟨hcons, _⟩
    exact absurd (eq_of_prefix_cons hcons hagain '.' hstop) (by decide)
  have hone : Counted kind ('x' :: (front ++ '.' :: kind)) 1 := by
    rw [Counted]
    refine ⟨hagain, ?_⟩
    intro m hm _
    obtain rfl : m = 0 := by omega
    exact hzero
  refine ⟨'x' :: (front ++ '.' :: kind), ?_, ?_, ?_⟩
  · intro c hc
    have hfront : ∀ c ∈ front, c ∈ kind := fun c hc => by simp [hkind, hc]
    rcases List.mem_cons.mp hc with rfl | hc
    · exact Or.inl rfl
    rcases List.mem_append.mp hc with hc | hc
    · exact Or.inr (hfront c hc)
    rcases List.mem_cons.mp hc with rfl | hc
    · exact Or.inr hstop
    · exact Or.inr hc
  · refine ⟨_, 'x' :: front ++ ['.'], [], by simp, rfl, ?_, by simp⟩
    intro c hc
    rw [List.getLast?_concat] at hc
    exact (Option.some.inj hc).symm
  · rintro ⟨n, hcounted, hrun⟩
    match n with
    | 0 => exact hzero hcounted
    | 1 =>
      obtain ⟨before, after, hscope, hlength, hlast, _⟩ := hrun
      obtain ⟨c, rfl⟩ := List.length_eq_one_iff.mp hlength
      obtain rfl := hlast c rfl
      simp at hscope
    | n + 2 =>
      -- there is only room for the kind at the end, where the occurrence after the letter reaches
      rw [Counted] at hcounted
      have hroom := hcounted.1.length_le
      have hlength : kind.length = front.length + back.length + 1 := by
        rw [hkind]
        simp
        omega
      have hpos := List.length_pos_iff.mpr hback
      simp only [List.length_drop, List.length_cons, List.length_append] at hroom
      exact hcounted.2 1 (by omega) (by omega) hone

end Overlap

section Words

variable {t w : Text}

theorem words_eq_singleton (hne : t ≠ []) (ht : ∀ c ∈ t, Unicode.isBlank c = false) :
    words t = [t] := by
  simp [words, List.splitOnP_eq_singleton ht, hne]

theorem not_isBlank_of_mem_splitOnP (hw : w ∈ t.splitOnP Unicode.isBlank) :
    ∀ c ∈ w, Unicode.isBlank c = false := by
  induction t generalizing w with
  | nil =>
    obtain rfl := List.mem_singleton.mp hw
    simp
  | cons c t ih =>
    rw [List.splitOnP_cons_eq_if_modifyHead] at hw
    split at hw
    next =>
      rcases List.mem_cons.mp hw with rfl | hw
      · simp
      · exact ih hw
    next hc =>
      obtain ⟨first, others, hsplit⟩ :=
        List.exists_cons_of_ne_nil (List.splitOnP_ne_nil Unicode.isBlank t)
      rw [hsplit, List.modifyHead_cons] at hw
      rcases List.mem_cons.mp hw with rfl | hw
      · have hfirst := ih (w := first) (by simp [hsplit])
        simpa [hc] using hfirst
      · exact ih (by simp [hsplit, hw])

theorem not_isBlank_of_mem_words (hw : w ∈ words t) : ∀ c ∈ w, Unicode.isBlank c = false :=
  not_isBlank_of_mem_splitOnP (List.mem_filter.mp hw).1

end Words

namespace Token

variable {t : Token} {kinds : List Text} {kind : Text}

theorem inAnyScope_iff : t.inAnyScope kinds = true ↔ t.HasCountedRun kinds := by
  simp only [inAnyScope, HasCountedRun, List.any_eq_true, scopeHasKind_iff]

theorem hasRun_iff :
    t.HasRun kinds ↔ ∃ scope ∈ words t.type, ∃ kind ∈ kinds, kind ≠ [] ∧
      ∃ n, RunAt kind scope n := by
  simp only [HasRun, segments_infix_iff]

theorem HasCountedRun.hasRun (h : t.HasCountedRun kinds) : t.HasRun kinds := by
  obtain ⟨scope, hs, kind, hk, hne, n, _, hrun⟩ := h
  exact hasRun_iff.mpr ⟨scope, hs, kind, hk, hne, n, hrun⟩

theorem HasRun.hasCountedRun (h : t.HasRun kinds) (hkinds : ∀ kind ∈ kinds, ¬ OverlapsItself kind) :
    t.HasCountedRun kinds := by
  obtain ⟨scope, hs, kind, hk, hne, n, hrun⟩ := hasRun_iff.mp h
  exact ⟨scope, hs, kind, hk, hne, n, counted_of_runAt (hkinds kind hk) hrun, hrun⟩

/-- What is found is a run, so it is all that is a run if every run is counted. -/
theorem inAnyScope_iff_hasRun :
    (t.inAnyScope kinds = true ↔ t.HasRun kinds) ↔ (t.HasRun kinds → t.HasCountedRun kinds) := by
  rw [inAnyScope_iff]
  constructor
  · exact Iff.mpr
  · intro h
    exact ⟨HasCountedRun.hasRun, h⟩

/-- No scope has a kind with a blank in it. -/
theorem not_hasRun_of_isBlank {c : Char} (hc : c ∈ kind) (hblank : Unicode.isBlank c = true) :
    ¬ t.HasRun [kind] := by
  rw [hasRun_iff]
  rintro ⟨scope, hs, _, hk, _, _, before, after, rfl, _⟩
  obtain rfl := List.mem_singleton.mp hk
  have hclear := not_isBlank_of_mem_words hs c (by simp [hc])
  rw [hblank] at hclear
  exact absurd hclear (by decide)

theorem exists_missed (hkind : OverlapsItself kind)
    (hclear : ∀ c ∈ kind, Unicode.isBlank c = false) :
    ∃ t : Token, t.HasRun [kind] ∧ ¬ t.HasCountedRun [kind] := by
  obtain ⟨scope, hchars, ⟨n, hrun⟩, hmissed⟩ := hkind.missed
  have hne : kind ≠ [] := by
    obtain ⟨front, back, rfl, _⟩ := hkind
    simp
  have hscope : ∀ c ∈ scope, Unicode.isBlank c = false := by
    intro c hc
    rcases hchars c hc with rfl | hc
    · decide
    · exact hclear c hc
  have hscope' : scope ≠ [] := by
    obtain ⟨before, after, rfl, _⟩ := hrun
    simp [hne]
  have hwords := words_eq_singleton hscope' hscope
  refine ⟨⟨0, scope⟩, ?_, ?_⟩
  · exact hasRun_iff.mpr ⟨scope, by simp [hwords], kind, by simp, hne, n, hrun⟩
  · rintro ⟨scope', hs, kind', hk, _, hfound⟩
    simp only [hwords, List.mem_singleton] at hs hk
    subst hs hk
    exact hmissed hfound

/-- A kind without blanks is found in every token that has it just if it does not overlap itself. -/
theorem inAnyScope_singleton (kind : Text) :
    (∀ t : Token, t.inAnyScope [kind] = true ↔ t.HasRun [kind]) ↔
      ¬ (OverlapsItself kind ∧ ∀ c ∈ kind, Unicode.isBlank c = false) := by
  simp only [inAnyScope_iff_hasRun]
  constructor
  · rintro h ⟨hkind, hclear⟩
    obtain ⟨t, hrun, hmissed⟩ := exists_missed hkind hclear
    exact hmissed (h t hrun)
  · intro h t hrun
    apply hrun.hasCountedRun
    intro kind' hk hkind
    obtain rfl := List.mem_singleton.mp hk
    refine h ⟨hkind, ?_⟩
    intro c hc
    by_contra hblank
    exact not_hasRun_of_isBlank hc (by simpa using hblank) hrun

/-- Kinds are found in a token just if one of them is a run that is counted. So they are found
wherever they are a run if every such run is counted, as it is when no kind overlaps itself; any
other kind without blanks is missed in some token. -/
theorem inAnyScope_exact (t : Token) (kinds : List Text) :
    (t.inAnyScope kinds = true ↔ t.HasCountedRun kinds) ∧
    ((t.inAnyScope kinds = true ↔ t.HasRun kinds) ↔ (t.HasRun kinds → t.HasCountedRun kinds)) ∧
    ((∀ kind ∈ kinds, ¬ OverlapsItself kind) →
      (t.inAnyScope kinds = true ↔ t.HasRun kinds)) ∧
    ∀ kind ∈ kinds, (∀ t : Token, t.inAnyScope [kind] = true ↔ t.HasRun [kind]) ↔
      ¬ (OverlapsItself kind ∧ ∀ c ∈ kind, Unicode.isBlank c = false) := by
  refine ⟨inAnyScope_iff, inAnyScope_iff_hasRun, ?_, fun kind _ => inAnyScope_singleton kind⟩
  intro hkinds
  exact inAnyScope_iff_hasRun.mpr fun hrun => hrun.hasCountedRun hkinds

theorem inAnyScope_exact_letters :
    (⟨0, ['a', '.', 'a', '.', 'b', ' ', 'x']⟩ : Token).inAnyScope [['a', '.', 'b']] = true := by
  apply ((inAnyScope_exact _ _).2.2.1 (by decide)).mpr
  exact ⟨['a', '.', 'a', '.', 'b'], by decide, ['a', '.', 'b'], by simp, by simp, by decide⟩

/-- The second letter of the first segment hides the run of two segments after it. -/
theorem run_hidden :
    (⟨0, ['x', 'a', '.', 'a', '.', 'a']⟩ : Token).inAnyScope [['a', '.', 'a']] = false ∧
      (⟨0, ['x', 'a', '.', 'a', '.', 'a']⟩ : Token).HasRun [['a', '.', 'a']] :=
  ⟨by decide, ['x', 'a', '.', 'a', '.', 'a'], by decide, ['a', '.', 'a'], by simp, by simp,
    by decide⟩

end Token

end Keystroke
