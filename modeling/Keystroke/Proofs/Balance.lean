import Keystroke.Proofs.Typing
import Mathlib.Data.List.Nodup

namespace Keystroke

namespace ClosingPairs

/-- Every pair has one opening and one closing character, no two pairs open with the same one, and
no character both opens and closes. -/
structure Unambiguous (e : ClosingPairs) : Prop where
  single : ∀ p ∈ e.pairs, ∃ o c, p.opening = [o] ∧ p.closing = [c]
  distinct : (e.pairs.map ClosingPair.opening).Nodup
  apart : ∀ p ∈ e.pairs, ∀ q ∈ e.pairs, p.opening ≠ q.closing

def Opens (e : ClosingPairs) (c : Char) : Prop :=
  ∃ p ∈ e.pairs, p.opening = [c]

def Closes (e : ClosingPairs) (c : Char) : Prop :=
  ∃ p ∈ e.pairs, p.closing = [c]

instance (e : ClosingPairs) (c : Char) : Decidable (e.Opens c) :=
  inferInstanceAs (Decidable (∃ p ∈ e.pairs, p.opening = [c]))

instance (e : ClosingPairs) (c : Char) : Decidable (e.Closes c) :=
  inferInstanceAs (Decidable (∃ p ∈ e.pairs, p.closing = [c]))

/-- A text in which every opening character is closed by that of its own pair. -/
inductive Balanced (e : ClosingPairs) : Text → Prop
  | nil : e.Balanced []
  | plain {c : Char} {rest : Text} :
    ¬ e.Opens c → ¬ e.Closes c → e.Balanced rest → e.Balanced (c :: rest)
  | nest {p : ClosingPair} {inner rest : Text} :
    p ∈ e.pairs → e.Balanced inner → e.Balanced rest →
      e.Balanced (p.opening ++ inner ++ p.closing ++ rest)

/-- The text starts with some of the closing characters that are pending, and `after` follows. -/
def Awaits (pending after t : Text) : Prop :=
  ∃ inserted, inserted.Sublist pending ∧ t = inserted ++ after

variable {e : ClosingPairs} {tokens : TokenSource} {before after t pending : Text} {c o : Char}

theorem opened?_eq_none (he : e.Unambiguous) (hc : ¬ e.Opens c) : e.opened? before [c] = none := by
  apply List.find?_eq_none.mpr
  intro p hp hcompletes
  obtain ⟨o, _, ho, _⟩ := he.single p hp
  simp only [ClosingPair.completes, ho, Bool.and_eq_true, List.isSuffixOf_iff_suffix] at hcompletes
  have heq : [c] = [o] := hcompletes.1.eq_of_length rfl
  exact hc ⟨p, hp, ho.trans heq.symm⟩

theorem opened?_opening (he : e.Unambiguous) {p : ClosingPair} (hp : p ∈ e.pairs) :
    e.opened? before p.opening = some p := by
  have hcompletes : p.completes before p.opening = true := by
    simp [ClosingPair.completes]
  obtain ⟨q, hq⟩ := Option.isSome_iff_exists.mp
    (List.find?_isSome.mpr ⟨p, hp, hcompletes⟩ : (e.opened? before p.opening).isSome = true)
  have hsuffix := List.find?_some hq
  simp only [ClosingPair.completes, Bool.and_eq_true, List.isSuffixOf_iff_suffix] at hsuffix
  have hmem := List.mem_of_find?_eq_some hq
  obtain ⟨o, _, ho, _⟩ := he.single p hp
  obtain ⟨o', _, ho', _⟩ := he.single q hmem
  have heq : p.opening = q.opening := hsuffix.1.eq_of_length (by rw [ho, ho']; rfl)
  rw [opened?, hq, List.inj_on_of_nodup_map he.distinct hp hmem heq]

/-- A character that opens nothing is inserted, unless it steps over a closing character. -/
theorem afterTyping_of_not_opens (he : e.Unambiguous) (hc : ¬ e.Opens c) :
    e.afterTyping tokens before [c] t = if e.stepsOver [c] t = true then t.drop 1 else t := by
  simp only [afterTyping, decision, opened?_eq_none he hc, List.cons_ne_nil, if_false]
  by_cases hs : e.stepsOver [c] t = true
  · simp only [if_pos hs, List.length_singleton]
  · simp only [if_neg hs]

theorem afterTyping_plain (he : e.Unambiguous) (ho : ¬ e.Opens c) (hc : ¬ e.Closes c) :
    e.afterTyping tokens before [c] t = t := by
  rw [afterTyping_of_not_opens he ho, if_neg]
  intro hs
  simp only [stepsOver, List.any_eq_true, Bool.and_eq_true, decide_eq_true_eq] at hs
  obtain ⟨p, hp, hclose, _⟩ := hs
  exact hc ⟨p, hp, hclose⟩

theorem not_opens_of_closes (he : e.Unambiguous) (hc : e.Closes c) : ¬ e.Opens c := by
  rintro ⟨q, hq, ho⟩
  obtain ⟨p, hp, hclose⟩ := hc
  exact he.apart q hq p hp (ho.trans hclose.symm)

theorem afterTyping_closing (he : e.Unambiguous) (hc : e.Closes c) :
    e.afterTyping tokens before [c] t = if [c] <+: t then t.drop 1 else t := by
  rw [afterTyping_of_not_opens he (not_opens_of_closes he hc)]
  congr 1
  obtain ⟨p, hp, hclose⟩ := hc
  simp only [stepsOver, List.any_eq_true, Bool.and_eq_true, decide_eq_true_eq,
    List.isPrefixOf_iff_prefix, eq_iff_iff]
  constructor
  · rintro ⟨_, _, _, hpre⟩
    exact hpre
  · intro hpre
    exact ⟨p, hp, hclose, hpre⟩

theorem afterTyping_opening (tokens : TokenSource) (before : Text) (he : e.Unambiguous)
    {p : ClosingPair} (hp : p ∈ e.pairs) (ht : ¬ p.opening <+: t) :
    e.afterTyping tokens before p.opening t = t ∨
      e.afterTyping tokens before p.opening t = p.closing ++ t := by
  unfold afterTyping
  rcases e.decision_cases tokens before p.opening t with h | ⟨_, hpre⟩ | ⟨q, hq, h⟩
  · exact Or.inl (by rw [h])
  · exact absurd hpre ht
  · cases Option.some.inj ((opened?_opening he hp).symm.trans hq)
    exact Or.inr (by rw [h])

/-- No opening character stands where closing characters are pending. -/
theorem Awaits.not_prefix_opening (he : e.Unambiguous) (hpending : ∀ c ∈ pending, e.Closes c)
    (hafter : ∀ c ∈ after.head?, ¬ e.Opens c ∧ ¬ e.Closes c) (ht : Awaits pending after t)
    (ho : e.Opens o) : ¬ [o] <+: t := by
  obtain ⟨inserted, hsub, rfl⟩ := ht
  intro hpre
  cases inserted with
  | nil => exact (hafter o (List.singleton_prefix_iff_head?_eq_some.mp hpre)).1 ho
  | cons x inserted =>
    obtain rfl := List.singleton_prefix_cons_iff.mp hpre
    have hx := hpending o (hsub.subset (by simp))
    exact not_opens_of_closes he hx ho

/-- Typing an opening character adds its closing one to those that are pending. -/
theorem Awaits.opening (tokens : TokenSource) (before : Text) (he : e.Unambiguous)
    (hpending : ∀ c ∈ pending, e.Closes c)
    (hafter : ∀ c ∈ after.head?, ¬ e.Opens c ∧ ¬ e.Closes c) (ht : Awaits pending after t)
    {p : ClosingPair} (hp : p ∈ e.pairs) :
    Awaits (p.closing ++ pending) after (e.afterTyping tokens before p.opening t) := by
  obtain ⟨o, _, ho, _⟩ := he.single p hp
  have hn : ¬ p.opening <+: t := by
    rw [ho]
    exact ht.not_prefix_opening he hpending hafter ⟨p, hp, ho⟩
  obtain ⟨inserted, hsub, rfl⟩ := ht
  rcases afterTyping_opening tokens before he hp hn with h | h
  · exact ⟨inserted, hsub.trans (List.sublist_append_right _ _), h⟩
  · exact ⟨p.closing ++ inserted, hsub.append_left _, by rw [h, List.append_assoc]⟩

/-- Typing the closing character that is due uses it up, whichever pair it was inserted for. -/
theorem Awaits.closing (tokens : TokenSource) (before : Text) (he : e.Unambiguous)
    (hafter : ∀ c ∈ after.head?, ¬ e.Opens c ∧ ¬ e.Closes c) (hc : e.Closes c)
    (ht : Awaits (c :: pending) after t) :
    Awaits pending after (e.afterTyping tokens before [c] t) := by
  obtain ⟨inserted, hsub, rfl⟩ := ht
  rw [afterTyping_closing he hc]
  cases inserted with
  | nil =>
    have hn : ¬ [c] <+: [] ++ after := fun hpre =>
      (hafter c (List.singleton_prefix_iff_head?_eq_some.mp hpre)).2 hc
    exact ⟨[], List.nil_sublist _, by rw [if_neg hn]⟩
  | cons x inserted =>
    by_cases hx : x = c
    · subst hx
      refine ⟨inserted, List.cons_sublist_cons.mp hsub, ?_⟩
      rw [if_pos ⟨inserted ++ after, rfl⟩]
      rfl
    · have hn : ¬ [c] <+: x :: inserted ++ after := fun hpre =>
        hx (List.singleton_prefix_cons_iff.mp hpre).symm
      refine ⟨x :: inserted, ?_, by rw [if_neg hn]⟩
      cases hsub with
      | cons _ h => exact h
      | cons_cons _ h => exact absurd rfl hx

end ClosingPairs

/-- The keystrokes type the characters of a text one by one. -/
def TypesOneByOne (strokes : List Stroke) (w : Text) : Prop :=
  strokes.map Stroke.typed = w.map fun c => [c]

namespace Session

open ClosingPairs

theorem strike_char {s : Session} {before after : Text} (hs : s.At before after) {k : Stroke}
    {c : Char} (hk : k.typed = [c]) (hc : c ≠ '\n' ∧ c ≠ '\r') :
    ∃ next, s.strike k = .ok next ∧ next.assistant = s.assistant ∧
      next.At (before ++ [c]) (s.assistant.pairs.afterTyping k.tokens before [c] after) := by
  have hd : isLineDelimiter k.typed = false := by
    simp [hk, isLineDelimiter, hc.1, hc.2]
  rw [← hk]
  exact strike_text hs hd

/-- The induction is on the balanced text, for any closing characters that are pending outside it.
Typing it uses up none of these, though it may step over one in the place of another. -/
theorem strikes_balanced {e : ClosingPairs} (he : e.Unambiguous) {after w : Text}
    (hafter : ∀ c ∈ after.head?, ¬ e.Opens c ∧ ¬ e.Closes c) (hw : e.Balanced w)
    (hdelimiter : ∀ c ∈ w, c ≠ '\n' ∧ c ≠ '\r') {s : Session} {before t pending : Text}
    (hpairs : s.assistant.pairs = e) (hs : s.At before t)
    (hpending : ∀ c ∈ pending, e.Closes c) (ht : Awaits pending after t)
    {strokes : List Stroke} (hstrokes : TypesOneByOne strokes w) :
    ∃ s' t', strokes.foldlM strike s = .ok s' ∧ s'.assistant.pairs = e ∧
      s'.At (before ++ w) t' ∧ Awaits pending after t' := by
  unfold TypesOneByOne at hstrokes
  induction hw generalizing s before t pending strokes with
  | nil =>
    obtain rfl : strokes = [] := by simpa using hstrokes
    exact ⟨s, t, rfl, hpairs, by simpa using hs, ht⟩
  | @plain c rest ho hc _ ih =>
    obtain ⟨k, strokes, rfl, hk, hrest⟩ := List.map_eq_cons_iff.mp hstrokes
    obtain ⟨next, hn, ha, hat⟩ := strike_char hs hk (hdelimiter c (by simp))
    rw [hpairs, afterTyping_plain he ho hc] at hat
    obtain ⟨s', t', hr, hp', hat', ht'⟩ :=
      ih (fun x hx => hdelimiter x (by simp [hx])) (ha ▸ hpairs) hat hpending ht hrest
    refine ⟨s', t', ?_, hp', by simpa using hat', ht'⟩
    simpa only [List.foldlM_cons, hn, ok_bind] using hr
  | @nest p inner rest hp _ _ ihInner ihRest =>
    obtain ⟨o, c, ho, hc⟩ := he.single p hp
    have hcloses : e.Closes c := ⟨p, hp, hc⟩
    simp only [ho, hc, List.append_assoc, List.singleton_append, List.map_cons,
      List.map_append] at hstrokes
    obtain ⟨k, strokes, rfl, hk, hstrokes⟩ := List.map_eq_cons_iff.mp hstrokes
    obtain ⟨typedInner, strokes, rfl, hinner, hstrokes⟩ := List.map_eq_append_iff.mp hstrokes
    obtain ⟨k', typedRest, rfl, hk', hrest⟩ := List.map_eq_cons_iff.mp hstrokes
    simp only [ho, hc] at hdelimiter
    -- the opening character
    obtain ⟨s₁, hs₁, ha₁, hat₁⟩ := strike_char hs hk (hdelimiter o (by simp))
    rw [hpairs, ← ho] at hat₁
    have ht₁ := ht.opening k.tokens before he hpending hafter hp
    rw [hc] at ht₁
    -- what is between
    obtain ⟨s₂, t₂, hs₂, hp₂, hat₂, ht₂⟩ :=
      ihInner (fun x hx => hdelimiter x (by simp [hx])) (ha₁ ▸ hpairs) hat₁
        (by simpa [hcloses] using hpending) ht₁ hinner
    -- the closing character
    obtain ⟨s₃, hs₃, ha₃, hat₃⟩ := strike_char hat₂ hk' (hdelimiter c (by simp))
    rw [hp₂] at hat₃
    have ht₃ := ht₂.closing k'.tokens (before ++ p.opening ++ inner) he hafter hcloses
    obtain ⟨s', t', hs', hp', hat', ht'⟩ :=
      ihRest (fun x hx => hdelimiter x (by simp [hx])) (ha₃ ▸ hp₂) hat₃ hpending ht₃ hrest
    refine ⟨s', t', ?_, hp', by simpa [hc] using hat', ht'⟩
    simpa only [List.foldlM_cons, List.foldlM_append, hs₁, hs₂, hs₃, ok_bind] using hs'

/-- Typing a balanced text one character at a time comes to inserting it as it is, whatever the
tokens are and wherever pairs are closed. -/
theorem strike_balanced (s : Session) (before after w : Text) (strokes : List Stroke)
    (hs : s.At before after) (hpairs : s.assistant.pairs.Unambiguous)
    (hafter : ∀ c ∈ after.head?, ¬ s.assistant.pairs.Opens c ∧ ¬ s.assistant.pairs.Closes c)
    (hw : s.assistant.pairs.Balanced w) (hdelimiter : ∀ c ∈ w, c ≠ '\n' ∧ c ≠ '\r')
    (hstrokes : TypesOneByOne strokes w) :
    ∃ s', strokes.foldlM strike s = .ok s' ∧ s'.text = before ++ w ++ after ∧
      s'.caret = Text.width (before ++ w) := by
  have hnone : Awaits [] after after := ⟨[], List.Sublist.refl _, rfl⟩
  obtain ⟨s', t', hr, _, hat, inserted, hsub, rfl⟩ :=
    strikes_balanced hpairs hafter hw hdelimiter rfl hs (by simp) hnone hstrokes
  cases List.sublist_nil.mp hsub
  exact ⟨s', hr, hat.text, hat.caret⟩

theorem strike_balanced_brackets :
    ∃ s', (['(', '[', ']', 'a', ')'].map fun c => ⟨[c], .standard, fun _ => none⟩).foldlM strike
        (between .brackets ['é'] [';']) = .ok s' ∧
      s'.text = ['é', '(', '[', ']', 'a', ')', ';'] ∧ s'.caret = 7 := by
  have hpairs : Assistant.brackets.pairs.Unambiguous := by
    constructor <;>
      simp [Assistant.brackets, BracketPair.standard, ClosingPair.opening, ClosingPair.closing]
  have hafter : ∀ c ∈ [';'].head?,
      ¬ Assistant.brackets.pairs.Opens c ∧ ¬ Assistant.brackets.pairs.Closes c := by
    intro c hc
    obtain rfl : ';' = c := by simpa using hc
    decide
  have hletter : Assistant.brackets.pairs.Balanced ['a'] := .plain (by decide) (by decide) .nil
  have hsquare : ⟨⟨['['], [']'], by decide, by decide⟩, []⟩ ∈ Assistant.brackets.pairs.pairs :=
    .tail _ (.tail _ (.head _))
  have hround : ⟨⟨['('], [')'], by decide, by decide⟩, []⟩ ∈ Assistant.brackets.pairs.pairs :=
    .head _
  have hw : Assistant.brackets.pairs.Balanced ['(', '[', ']', 'a', ')'] :=
    .nest hround (.nest hsquare .nil hletter) .nil
  exact strike_balanced (between .brackets ['é'] [';']) ['é'] [';'] ['(', '[', ']', 'a', ')'] _
    (at_between _ _ _) hpairs hafter hw (by simp) (by simp [TypesOneByOne])

end Session

end Keystroke
