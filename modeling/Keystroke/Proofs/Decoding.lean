import Keystroke.Configuration.Reading
import Keystroke.Proofs.Grammar

namespace Keystroke.Json5

open Reader

/-- The reader takes the texts that spell some values, and makes of them what `f` says. -/
structure Decodes {α : Type} (r : Reader α) (f : Value → Option α) : Prop where
  sound {t rest : Text} {a : α} (h : r.Reads t a rest) :
    ∃ g core v, IsGap g ∧ Spells core v ∧ f v = some a ∧ t = g ++ (core ++ rest)
  complete {g core rest : Text} {v : Value} {a : α} (hg : IsGap g) (hcore : Spells core v)
    (ha : f v = some a) (hrest : EndsValue rest) : r.Reads (g ++ (core ++ rest)) a rest

/-- The reader takes a colon and the texts that spell some values. -/
structure DecodesMember {α : Type} (r : Reader α) (f : Value → Option α) : Prop where
  sound {t rest : Text} {a : α} (h : r.Reads t a rest) :
    ∃ g g' core v, IsGap g ∧ IsGap g' ∧ Spells core v ∧ f v = some a ∧
      t = g ++ ':' :: (g' ++ (core ++ rest))
  complete {g g' core rest : Text} {v : Value} {a : α} (hg : IsGap g) (hg' : IsGap g')
    (hcore : Spells core v) (ha : f v = some a) (hrest : EndsValue rest) :
    r.Reads (g ++ ':' :: (g' ++ (core ++ rest))) a rest

section Parts

variable {α β σ : Type} {t rest : Text} {c : Char} {unfinished : Construct} {expected : Wanted}

theorem reads_sign {u : Unit} :
    (sign c unfinished expected).Reads t u rest ↔ afterBlanks .between t = .ok (c :: rest) := by
  rw [sign, reads_ahead_bind]
  constructor
  · rintro ⟨v, hv, h⟩
    cases v with
    | nil => exact absurd h not_reads_fail
    | cons d v =>
      by_cases hd : d = c
      · obtain rfl : rest = v := by simpa [hd] using h
        rw [hv, hd]
      · simp [hd] at h
  · intro h
    exact ⟨_, h, by simp⟩

theorem reads_closing {u : Unit} (hc : IsSolid c) (hcomma : c ≠ ',') :
    (closing c unfinished expected).Reads t u rest ↔
      ∃ g tail, IsGap g ∧ IsTail tail ∧ t = g ++ tail ++ c :: rest := by
  rw [closing, reads_ahead_bind]
  constructor
  · rintro ⟨v, hv, h⟩
    split at h
    next v =>
      simp only [reads_bind, reads_drop, reads_sign] at h
      obtain ⟨_, _, rfl, h⟩ := h
      obtain ⟨g, hg, -, rfl⟩ := exists_gap hv
      obtain ⟨g', hg', -, hv⟩ := exists_gap h
      exact ⟨g, ',' :: g', hg, .inr ⟨g', hg', rfl⟩, by simpa using hv⟩
    next =>
      rw [reads_sign] at h
      cases v with
      | nil => cases h
      | cons d v =>
        obtain ⟨g, hg, hsolid, rfl⟩ := exists_gap hv
        rw [afterBlanks_solid hsolid] at h
        cases h
        exact ⟨g, [], hg, .inl .nil, by simp⟩
  · rintro ⟨g, tail, hg, htail | ⟨g', hg', rfl⟩, rfl⟩
    · refine ⟨_, (hg.append htail).afterBlanks_solid hc rest, ?_⟩
      simp [hcomma, reads_sign, afterBlanks_solid hc]
    · refine ⟨',' :: (g' ++ c :: rest), ?_, ?_⟩
      · rw [List.append_assoc]
        exact hg.afterBlanks_solid (isSolid_visible (by decide)) _
      · simp [reads_sign, hg'.afterBlanks_solid hc rest]

/-- Reads what stands between two signs. -/
def surrounded (opening closingSign : Char) (unfinished : Construct) (start finish : Wanted)
    (body : Reader α) : Reader α := do
  match ← ahead with
  | [] => fail (.endOfText unfinished)
  | d :: _ =>
    if d = opening then
      let a ← within do
        drop 1
        body
      closing closingSign unfinished finish
      return a
    else failHere (.expected start)

theorem reads_surrounded {opening closingSign : Char} {start finish : Wanted} {body : Reader α}
    {a : α} (hopening : IsSolid opening) (hclosing : IsSolid closingSign)
    (hcomma : closingSign ≠ ',') :
    (surrounded opening closingSign unfinished start finish body).Reads t a rest ↔
      ∃ g u g' tail, IsGap g ∧ t = g ++ opening :: u ∧ IsGap g' ∧ IsTail tail ∧
        body.Reads u a (g' ++ tail ++ closingSign :: rest) := by
  rw [surrounded, reads_ahead_bind]
  constructor
  · rintro ⟨v, hv, h⟩
    cases v with
    | nil => exact absurd h not_reads_fail
    | cons d u =>
      by_cases hd : d = opening
      · simp only [if_pos hd, reads_bind, reads_within, reads_drop, List.drop_succ_cons,
          List.drop_zero, reads_pure, reads_closing hclosing hcomma] at h
        obtain ⟨b, _, ⟨_, _, rfl, hbody⟩, _, _, ⟨g', tail, hg', htail, rfl⟩, rfl, rfl⟩ := h
        obtain ⟨g, hg, -, rfl⟩ := exists_gap hv
        exact ⟨g, _, g', tail, hg, by rw [hd], hg', htail, hbody⟩
      · simp [hd] at h
  · rintro ⟨g, u, g', tail, hg, rfl, hg', htail, hbody⟩
    refine ⟨_, hg.afterBlanks_solid hopening u, ?_⟩
    simp only [if_true, reads_bind, reads_within, reads_drop, List.drop_succ_cons, List.drop_zero,
      reads_pure, reads_closing hclosing hcomma]
    exact ⟨a, _, ⟨(), u, rfl, hbody⟩, (), rest, ⟨g', tail, hg', htail, rfl⟩, rfl, rfl⟩

theorem bracketed_eq (body : Reader α) :
    bracketed body = surrounded '[' ']' .array .openingBracket .closingBracket body := by
  refine congrArg (ahead >>= ·) (funext fun u => ?_)
  rcases u with - | ⟨d, u⟩
  · rfl
  · by_cases hd : d = '[' <;> simp [hd]

theorem braced_eq (body : Reader α) :
    braced body = surrounded '\x7b' '\x7d' .object .openingBrace .closingBrace body := by
  refine congrArg (ahead >>= ·) (funext fun u => ?_)
  rcases u with - | ⟨d, u⟩
  · rfl
  · by_cases hd : d = '\x7b' <;> simp [hd]

theorem reads_bracketed {body : Reader α} {a : α} :
    (bracketed body).Reads t a rest ↔
      ∃ g u g' tail, IsGap g ∧ t = g ++ '[' :: u ∧ IsGap g' ∧ IsTail tail ∧
        body.Reads u a (g' ++ tail ++ ']' :: rest) := by
  rw [bracketed_eq, reads_surrounded (isSolid_visible (by decide)) (isSolid_visible (by decide))
    (by decide)]

theorem reads_braced {body : Reader α} {a : α} :
    (braced body).Reads t a rest ↔
      ∃ g u g' tail, IsGap g ∧ t = g ++ '\x7b' :: u ∧ IsGap g' ∧ IsTail tail ∧
        body.Reads u a (g' ++ tail ++ '\x7d' :: rest) := by
  rw [braced_eq, reads_surrounded (isSolid_visible (by decide)) (isSolid_visible (by decide))
    (by decide)]

end Parts

section Decoding

variable {α β σ : Type}

theorem Decodes.congr {r r' : Reader α} {f f' : Value → Option α} (h : Decodes r f)
    (hr : ∀ t a rest, r'.Reads t a rest ↔ r.Reads t a rest) (hf : ∀ v, f' v = f v) :
    Decodes r' f' where
  sound hread := by
    simp only [hf]
    exact h.sound ((hr _ _ _).mp hread)
  complete hg hcore ha hrest := (hr _ _ _).mpr (h.complete hg hcore ((hf _).symm.trans ha) hrest)

theorem Decodes.map {r : Reader α} {f : Value → Option α} (h : Decodes r f) (e : α → β) :
    Decodes (do return e (← r)) fun v => (f v).map e where
  sound hread := by
    simp only [reads_bind, reads_pure] at hread
    obtain ⟨a, _, hread, rfl, rfl⟩ := hread
    obtain ⟨g, core, v, hg, hcore, ha, rfl⟩ := h.sound hread
    exact ⟨g, core, v, hg, hcore, by rw [ha, Option.map_some], rfl⟩
  complete hg hcore hb hrest := by
    obtain ⟨a, ha, rfl⟩ := Option.map_eq_some_iff.mp hb
    simp only [reads_bind, reads_pure]
    exact ⟨a, _, h.complete hg hcore ha hrest, rfl, rfl⟩

theorem DecodesMember.map {r : Reader α} {f : Value → Option α} (h : DecodesMember r f)
    (e : α → β) : DecodesMember (do return e (← r)) fun v => (f v).map e where
  sound hread := by
    simp only [reads_bind, reads_pure] at hread
    obtain ⟨a, _, hread, rfl, rfl⟩ := hread
    obtain ⟨g, g', core, v, hg, hg', hcore, ha, rfl⟩ := h.sound hread
    exact ⟨g, g', core, v, hg, hg', hcore, by rw [ha, Option.map_some], rfl⟩
  complete hg hg' hcore hb hrest := by
    obtain ⟨a, ha, rfl⟩ := Option.map_eq_some_iff.mp hb
    simp only [reads_bind, reads_pure]
    exact ⟨a, _, h.complete hg hg' hcore ha hrest, rfl, rfl⟩

theorem Decodes.memberValue {r : Reader α} {f : Value → Option α} (h : Decodes r f) :
    DecodesMember (memberValue r) f where
  sound hread := by
    simp only [Reader.memberValue, reads_bind, reads_sign] at hread
    obtain ⟨_, u, hcolon, hread⟩ := hread
    obtain ⟨g, hg, -, rfl⟩ := exists_gap hcolon
    obtain ⟨g', core, v, hg', hcore, ha, rfl⟩ := h.sound hread
    exact ⟨g, g', core, v, hg, hg', hcore, ha, rfl⟩
  complete hg hg' hcore ha hrest := by
    simp only [Reader.memberValue, reads_bind, reads_sign]
    exact ⟨(), _, hg.afterBlanks_solid (isSolid_visible (by decide)) _, h.complete hg' hcore ha hrest⟩

/-- The values of an array. -/
def Value.list? (f : Value → Option α) : Value → Option (List α)
  | .array items => items.mapM f
  | _ => none

/-- What the members of an object stand for: each one changes a state, if it can. -/
def Value.record? (put : σ → Text × Value → Option σ) (s : σ) (finish : σ → Option α) :
    Value → Option α
  | .object members => (members.foldlM put s).bind finish
  | _ => none

theorem Decodes.sound_solid {r : Reader α} {f : Value → Option α} (h : Decodes r f) {d : Char}
    {t rest : Text} {a : α} (hd : IsSolid d) (hread : r.Reads (d :: t) a rest) :
    ∃ p v, Spells (d :: p) v ∧ f v = some a ∧ t = p ++ rest := by
  obtain ⟨g, core, v, hg, hcore, ha, htext⟩ := h.sound hread
  obtain rfl := hg.eq_nil hd htext
  obtain ⟨c, p, rfl, -⟩ := hcore.starts
  obtain ⟨rfl, rfl⟩ := List.cons.inj htext
  exact ⟨p, v, hcore, ha, rfl⟩

theorem Decodes.complete_solid {r : Reader α} {f : Value → Option α} (h : Decodes r f)
    {core rest : Text} {v : Value} {a : α} (hcore : Spells core v) (ha : f v = some a)
    (hrest : EndsValue rest) : r.Reads (core ++ rest) a rest :=
  h.complete .nil hcore ha hrest

/-- The closing sign of the elements is the one behind which the reader goes on. -/
theorem eq_of_closing {c : Char} (hc : IsSolid c) (hcomma : c ≠ ',') {g tail u rest : Text}
    (hg : IsGap g) (htail : IsTail tail) (h : g ++ tail ++ c :: rest = c :: u) : u = rest := by
  have hread : (closing c .object .closingBrace).Reads (c :: u) () u :=
    (reads_closing hc hcomma).mpr ⟨[], [], .nil, .inl .nil, rfl⟩
  have hread' : (closing c .object .closingBrace).Reads (c :: u) () rest :=
    (reads_closing hc hcomma).mpr ⟨g, tail, hg, htail, h.symm⟩
  exact (hread.unique hread').2

/-- An element of an array is put in front of those before it. -/
def Collects (f : Value → Option α) (l : List α) (i : Item) (l' : List α) : Prop :=
  Spells i.text i.value ∧ ∃ a, f i.value = some a ∧ l' = a :: l

theorem chain_collects {f : Value → Option α} {is : List Item} {l l' : List α} :
    Chain (Collects f) l is l' ↔
      (∀ i ∈ is, Spells i.text i.value) ∧
        ∃ as, (is.map Item.value).mapM f = some as ∧ l' = as.reverse ++ l := by
  induction is generalizing l with
  | nil =>
    constructor
    · rintro ⟨⟩
      exact ⟨by simp, [], rfl, rfl⟩
    · rintro ⟨-, as, has, rfl⟩
      cases has
      exact .nil l
  | cons i is ih =>
    constructor
    · rintro ⟨⟩
      next hi hchain =>
        obtain ⟨hspells, a, ha, rfl⟩ := hi
        obtain ⟨hall, as, has, rfl⟩ := ih.mp hchain
        exact ⟨List.forall_mem_cons.mpr ⟨hspells, hall⟩, a :: as, by simp [ha, has], by simp⟩
    · rintro ⟨hall, as, has, rfl⟩
      obtain ⟨hspells, hall⟩ := List.forall_mem_cons.mp hall
      simp only [List.map_cons, List.mapM_cons] at has
      obtain ⟨a, ha, has⟩ := Option.bind_eq_some_iff.mp has
      obtain ⟨bs, hbs, has⟩ := Option.bind_eq_some_iff.mp has
      cases has
      exact .cons ⟨hspells, a, ha, rfl⟩ (ih.mpr ⟨hall, bs, hbs, by simp⟩)

theorem Decodes.exists_collects {element : Reader α} {f : Value → Option α} (h : Decodes element f)
    {l l' : List α} {d : Char} {t rest : Text} (hd : IsSolid d)
    (hread : Reads (do return (← element) :: l) (d :: t) l' rest) :
    ∃ i, Collects f l i l' ∧ d :: t = i.text ++ rest := by
  simp only [reads_bind, reads_pure] at hread
  obtain ⟨a, _, hread, rfl, rfl⟩ := hread
  obtain ⟨p, v, hcore, ha, rfl⟩ := h.sound_solid hd hread
  exact ⟨⟨d :: p, v⟩, ⟨hcore, a, ha, rfl⟩, rfl⟩

theorem Decodes.reads_collects {element : Reader α} {f : Value → Option α} (h : Decodes element f)
    {l l' : List α} {i : Item} {rest : Text} (hi : Collects f l i l') (hrest : EndsValue rest) :
    Reads (do return (← element) :: l) (i.text ++ rest) l' rest := by
  obtain ⟨hspells, a, ha, rfl⟩ := hi
  simp only [reads_bind, reads_pure]
  exact ⟨a, rest, h.complete_solid hspells ha hrest, rfl, rfl⟩

theorem Decodes.list {element : Reader α} {f : Value → Option α} (h : Decodes element f) :
    Decodes (list element) (Value.list? f) where
  sound hread := by
    simp only [Reader.list, reads_bind, reads_pure, reads_bracketed] at hread
    obtain ⟨_, _, ⟨g, u, g', tail', hg, rfl, hg', htail', hread⟩, rfl, rfl⟩ := hread
    obtain ⟨is, tail, u', hlayout, hchain, rfl, hrest⟩ :=
      exists_chain (fun _ _ _ _ _ => h.exists_collects) hread
    -- The elements end where the array is closed, since a sign closes one thing only.
    obtain rfl := eq_of_closing (isSolid_visible (by decide)) (by decide) hg' htail' hrest
    obtain ⟨hspells, as, has, rfl⟩ := chain_collects.mp hchain
    rw [List.map_map] at has
    refine ⟨g, _, _, hg, .array hlayout (List.forall_mem_map.mp hspells), ?_, by simp [enclosed]⟩
    rw [List.append_nil, List.reverse_reverse]
    exact has
  complete {g core rest v as} hg hcore has hrest := by
    cases hcore with
    | @array items tail hlayout hitems =>
      have hchain : Chain (Collects f) [] (items.map Spaced.content) as.reverse := by
        refine chain_collects.mpr ⟨List.forall_mem_map.mpr hitems, as, ?_, by simp⟩
        rw [List.map_map]
        exact has
      have hstart : ∀ l i l', Collects f l i l' → StartsElement ']' i.text :=
        fun _ _ _ hi => hi.1.startsElement (by simp)
      have hread : (allElements ']' .array (fun l => do return (← element) :: l) []).Reads _ _ _ :=
        reads_chain (isSolid_visible (by decide)) (by simp) hstart (fun _ _ _ _ => h.reads_collects) hchain
          hlayout rest
      simp only [Reader.list, reads_bind, reads_pure, reads_bracketed]
      refine ⟨_, rest, ⟨g, _, [], [], hg, ?_, .nil, .inl .nil, hread⟩, by simp, rfl⟩
      simp [enclosed]
    | _ => cases has

/-- A member changes a state. -/
def Puts (put : σ → Text × Value → Option σ) (s : σ) (e : Entry) (s' : σ) : Prop :=
  (e.IsNamed ∧ Spells e.item.text e.item.value) ∧ put s e.member = some s'

theorem chain_puts {put : σ → Text × Value → Option σ} {es : List Entry} {s s' : σ} :
    Chain (Puts put) s es s' ↔
      (∀ e ∈ es, e.IsNamed ∧ Spells e.item.text e.item.value) ∧
        (es.map Entry.member).foldlM put s = some s' := by
  induction es generalizing s with
  | nil =>
    constructor
    · rintro ⟨⟩
      exact ⟨by simp, rfl⟩
    · rintro ⟨-, h⟩
      cases h
      exact .nil _
  | cons e es ih =>
    constructor
    · rintro ⟨⟩
      next s₁ he hchain =>
        obtain ⟨hall, hput⟩ := ih.mp hchain
        exact ⟨List.forall_mem_cons.mpr ⟨he.1, hall⟩, by simp [he.2, hput]⟩
    · rintro ⟨hall, hput⟩
      obtain ⟨he, hall⟩ := List.forall_mem_cons.mp hall
      simp only [List.map_cons, List.foldlM_cons] at hput
      obtain ⟨s₁, hs₁, hput⟩ := Option.bind_eq_some_iff.mp hput
      exact .cons ⟨he, hs₁⟩ (ih.mpr ⟨hall, hput⟩)

theorem Entry.IsNamed.startsElement {e : Entry} (h : e.IsNamed) :
    StartsElement '\x7d' e.text := by
  obtain ⟨⟨c, hhead, hc⟩, -⟩ := h.key
  obtain ⟨u, hu⟩ := List.head?_eq_some_iff.mp hhead
  exact ⟨c, by simp [Entry.text, hu], hc⟩

section Members

variable {step : σ → Text → Reader σ} {put : σ → Text × Value → Option σ}
  (hstep : ∀ s k, DecodesMember (step s k) fun v => put s (k, v))

include hstep

theorem exists_puts {s s' : σ} {t rest : Text} (hread : Reads (do step s (← key)) t s' rest) :
    ∃ e, Puts put s e s' ∧ t = e.text ++ rest := by
  obtain ⟨k, u, hkey, hvalue⟩ := reads_bind.mp hread
  obtain ⟨p, rfl, hp⟩ := exists_key hkey
  obtain ⟨g, g', core, v, hg, hg', hcore, hput, rfl⟩ := (hstep s k).sound hvalue
  exact ⟨⟨p, k, g, g', ⟨core, v⟩⟩, ⟨⟨⟨hp, hg, hg'⟩, hcore⟩, hput⟩, by simp [Entry.text]⟩

theorem reads_puts {s s' : σ} {e : Entry} {rest : Text} (he : Puts put s e s')
    (hrest : EndsValue rest) : Reads (do step s (← key)) (e.text ++ rest) s' rest := by
  obtain ⟨⟨⟨hkey, hafter, hbefore⟩, hspells⟩, hput⟩ := he
  refine reads_bind.mpr ⟨e.key, e.afterKey ++ ':' :: (e.beforeItem ++ (e.item.text ++ rest)), ?_,
    (hstep s e.key).complete hafter hbefore hspells hput hrest⟩
  simpa [Entry.text] using hkey.2 _ (hafter.endsKey _)

theorem decodes_members {finish : σ → Reader α} {f : σ → Option α}
    (hfinish : ∀ s t a rest, (finish s).Reads t a rest ↔ f s = some a ∧ t = rest) (s : σ) :
    Decodes (braced do
      let s ← allElements '\x7d' .object (fun s => do step s (← key)) s
      finish s) (Value.record? put s f) where
  sound hread := by
    simp only [reads_braced, reads_bind, hfinish] at hread
    obtain ⟨g, u, g', tail', hg, rfl, hg', htail', s', _, hread, ha, rfl⟩ := hread
    obtain ⟨es, tail, u', hlayout, hchain, rfl, hrest⟩ :=
      exists_chain (fun _ _ _ _ _ _ => exists_puts hstep) hread
    obtain rfl := eq_of_closing (isSolid_visible (by decide)) (by decide) hg' htail' hrest
    obtain ⟨hentries, hput⟩ := chain_puts.mp hchain
    rw [List.forall_mem_map] at hentries
    rw [List.map_map] at hput
    refine ⟨g, _, _, hg, .object hlayout (fun e he => (hentries e he).1)
      (fun e he => (hentries e he).2), ?_, by simp [enclosed]⟩
    exact Option.bind_eq_some_iff.mpr ⟨s', hput, ha⟩
  complete {g core rest v a} hg hcore ha hrest := by
    cases hcore with
    | @object entries tail hlayout hnamed hitems =>
      obtain ⟨s', hput, ha⟩ := Option.bind_eq_some_iff.mp ha
      have hchain : Chain (Puts put) s (entries.map Spaced.content) s' := by
        refine chain_puts.mpr ⟨?_, ?_⟩
        · exact List.forall_mem_map.mpr fun e he => ⟨hnamed e he, hitems e he⟩
        · rw [List.map_map]
          exact hput
      have hstart : ∀ s e s', Puts put s e s' → StartsElement '\x7d' e.text :=
        fun _ _ _ he => he.1.1.startsElement
      have hread : (allElements '\x7d' .object (fun s => do step s (← key)) s).Reads _ _ _ :=
        reads_chain (isSolid_visible (by decide)) (by simp) hstart (fun _ _ _ _ => reads_puts hstep) hchain
          hlayout rest
      simp only [reads_braced, reads_bind, hfinish]
      refine ⟨g, _, [], [], hg, ?_, .nil, .inl .nil, s', _, hread, ha, rfl⟩
      simp [enclosed]
    | _ => cases ha

end Members

theorem decodes_ahead {read : Text → Reader α} {f : Value → Option α}
    (hnil : ∀ a rest, ¬ (read []).Reads [] a rest)
    (hsound : ∀ c u a rest, IsSolid c → (read (c :: u)).Reads (c :: u) a rest →
      ∃ p v, Spells (c :: p) v ∧ f v = some a ∧ u = p ++ rest)
    (hcomplete : ∀ c u v a rest, Spells (c :: u) v → StartsValue v c → f v = some a →
      EndsValue rest → (read (c :: (u ++ rest))).Reads (c :: (u ++ rest)) a rest) :
    Decodes (ahead >>= read) f where
  sound {t rest a} hread := by
    obtain ⟨u, hu, hstep⟩ := reads_ahead_bind.mp hread
    cases u with
    | nil => exact absurd hstep (hnil a rest)
    | cons c u =>
      obtain ⟨g, hg, hc, rfl⟩ := exists_gap hu
      obtain ⟨p, v, hcore, ha, rfl⟩ := hsound c u a rest hc hstep
      exact ⟨g, _, v, hg, hcore, ha, rfl⟩
  complete {g core rest v a} hg hcore ha hrest := by
    obtain ⟨c, u, rfl, hc⟩ := hcore.starts
    exact reads_ahead_bind.mpr ⟨_, hg.afterBlanks_solid hc.isSolid.1 _,
      hcomplete c u v a rest hcore hc ha hrest⟩

/-- A reader that goes on as the first character says decodes what the readers decode with which it
goes on. -/
theorem decodes_parts {read : Text → Reader α} {f : Value → Option α}
    (hnil : ∀ a rest, ¬ (read []).Reads [] a rest)
    (hpart : ∀ c u, IsSolid c → ∃ (r : Reader α) (f' : Value → Option α), Decodes r f' ∧
      (∀ v, StartsValue v c → f v = f' v) ∧
      ∀ a rest, (read (c :: u)).Reads (c :: u) a rest ↔ r.Reads (c :: u) a rest) :
    Decodes (ahead >>= read) f := by
  refine decodes_ahead hnil (fun c u a rest hc hread => ?_)
    (fun c u v a rest hcore hc ha hrest => ?_)
  · obtain ⟨r, f', hr, hf, hreads⟩ := hpart c u hc
    obtain ⟨p, v, hcore, ha, rfl⟩ := hr.sound_solid hc ((hreads a rest).mp hread)
    obtain ⟨_, _, hcons, hstart⟩ := hcore.starts
    obtain ⟨rfl, rfl⟩ := List.cons.inj hcons
    exact ⟨_, v, hcore, (hf v hstart).trans ha, rfl⟩
  · obtain ⟨r, f', hr, hf, hreads⟩ := hpart c (u ++ rest) hc.isSolid.1
    exact (hreads a rest).mpr (hr.complete_solid hcore ((hf v hc).symm.trans ha) hrest)

theorem decodes_failHere (c : Cause) : Decodes (failHere c : Reader α) fun _ => none :=
  ⟨fun h => absurd h not_reads_failHere, fun _ _ h => nomatch h⟩

def Value.null? : Value → Option Unit
  | .null => some ()
  | _ => none

theorem decodes_null :
    Decodes (do blanks; word ['n', 'u', 'l', 'l'] .null .null) Value.null? where
  sound {t rest a} hread := by
    simp only [reads_bind, reads_blanks, reads_word] at hread
    obtain ⟨_, _, hblanks, rfl⟩ := hread
    obtain ⟨g, hg, -, rfl⟩ := exists_gap hblanks
    exact ⟨g, _, .null, hg, .null, rfl, rfl⟩
  complete {g core rest v a} hg hcore ha _ := by
    cases hcore with
    | null =>
      simp only [reads_bind, reads_blanks, reads_word]
      exact ⟨(), _, hg.afterBlanks_solid (isSolid_visible (by decide)) _, rfl⟩
    | _ => cases ha

theorem decodes_string : Decodes string Value.string? := by
  refine decodes_ahead (fun _ _ => not_reads_fail) (fun c u s rest _ hread => ?_)
    (fun c u v s rest hcore hc hs _ => ?_)
  · by_cases hq : c = '"' ∨ c = '\x27'
    · obtain ⟨p, htext, hp⟩ := exists_string hq (by simpa only [if_pos hq] using hread)
      obtain ⟨d, p, rfl, -⟩ := (Spells.string hp).starts
      obtain ⟨rfl, rfl⟩ := List.cons.inj htext
      exact ⟨p, .string s, .string hp, rfl, rfl⟩
    · simp only [if_neg hq] at hread
      exact absurd hread not_reads_failHere
  · cases hcore with
    | string h =>
      cases hs
      have hread := h.2 rest
      rw [List.cons_append] at hread
      simpa only [if_pos (show c = '"' ∨ c = '\x27' from hc)] using hread
    | _ => cases hs

def Value.bool? : Value → Option Bool
  | .bool b => some b
  | _ => none

theorem decodes_bool : Decodes bool Value.bool? := by
  refine decodes_ahead (fun _ _ => not_reads_fail) (fun c u b rest _ hread => ?_)
    (fun c u v b rest hcore hc hb _ => ?_)
  · split at hread
    next h => cases h
    next h =>
      cases h
      simp only [reads_bind, reads_word, reads_pure] at hread
      obtain ⟨_, _, htext, rfl, rfl⟩ := hread
      exact ⟨['r', 'u', 'e'], .bool true, .yes, rfl, List.tail_eq_of_cons_eq htext⟩
    next h =>
      cases h
      simp only [reads_bind, reads_word, reads_pure] at hread
      obtain ⟨_, _, htext, rfl, rfl⟩ := hread
      exact ⟨['a', 'l', 's', 'e'], .bool false, .no, rfl, List.tail_eq_of_cons_eq htext⟩
    next => exact absurd hread not_reads_failHere
  · cases hcore with
    | yes =>
      cases hb
      simp [reads_word]
    | no =>
      cases hb
      simp [reads_word]
    | _ => cases hb

/-- What the value stands for, if it is a number. -/
def Value.number? (decode : Number → Except Cause α) : Value → Option α
  | .number n => (decode n).toOption
  | _ => none

theorem toOption_eq_some {ε : Type} {result : Except ε α} {a : α} :
    result.toOption = some a ↔ result = .ok a := by
  cases result <;> simp [Except.toOption]

theorem startsNumber_of_reads {c : Char} {t rest : Text} {n : Number}
    (h : signedMagnitude.Reads (c :: t) n rest) : startsNumber c = true := by
  by_contra hc
  simp only [startsNumber, Bool.or_eq_true, not_or, List.contains_eq_mem, decide_eq_true_eq,
    List.mem_cons, List.not_mem_nil, or_false] at hc
  obtain ⟨hdigit, hpoint, hplus, hminus, hword⟩ := hc
  have hzero : c ≠ '0' := by
    rintro rfl
    exact hdigit (by decide)
  simp [signedMagnitude, magnitude, hdigit, hpoint, hplus, hminus, hword, hzero] at h

theorem decodes_number (decode : Number → Except Cause α) :
    Decodes (numberAs decode) (Value.number? decode) where
  sound {t rest a} hread := by
    obtain ⟨u, n, hu, hn, ha⟩ := reads_numberAs.mp hread
    cases u with
    | nil => simp [signedMagnitude, magnitude] at hn
    | cons c u =>
      obtain ⟨g, hg, -, rfl⟩ := exists_gap hu
      obtain ⟨p, htext, hp⟩ := exists_number (startsNumber_of_reads hn) hn
      exact ⟨g, p, .number n, hg, .number hp, toOption_eq_some.mpr ha, by rw [htext]⟩
  complete {g core rest v a} hg hcore ha hrest := by
    cases hcore with
    | @number _ n h =>
      obtain ⟨⟨c, hhead, hc⟩, hread⟩ := h
      obtain ⟨u, rfl⟩ := List.head?_eq_some_iff.mp hhead
      exact reads_numberAs.mpr ⟨_, n, hg.afterBlanks_solid (isSolid_startsNumber hc) _,
        hread rest hrest, toOption_eq_some.mp ha⟩
    | _ => cases ha

/-- What the value stands for, if it is not `null`. -/
def Value.optional? (f : Value → Option α) : Value → Option (Option α)
  | .null => some none
  | v => (f v).map some

theorem Value.optional?_of_ne {f : Value → Option α} {v : Value} (h : v ≠ .null) :
    v.optional? f = (f v).map some := by
  cases v with
  | null => exact absurd rfl h
  | _ => rfl

theorem Decodes.optional {r : Reader α} {f : Value → Option α} (h : Decodes r f) :
    Decodes (optional r) (Value.optional? f) := by
  refine decodes_parts (fun _ _ => not_reads_fail) fun c u hc => ?_
  by_cases hn : c = 'n'
  · subst hn
    refine ⟨_, _, decodes_null.map fun _ => none, fun v hv => ?_, fun o rest => ?_⟩
    · obtain rfl := startsValue_n.mp hv
      rfl
    · simp [afterBlanks_solid hc]
  · refine ⟨_, _, h.map some, fun v hv => Value.optional?_of_ne ?_, by simp [hn]⟩
    rintro rfl
    exact hn hv

end Decoding

end Keystroke.Json5
