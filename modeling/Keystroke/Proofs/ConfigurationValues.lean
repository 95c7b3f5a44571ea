import Keystroke.Proofs.Documents

namespace Keystroke

namespace Json5

open Reader

section Parts

variable {α β σ : Type}

theorem Decodes.bind {r : Reader α} {f : Value → Option α} (h : Decodes r f) {next : α → Reader β}
    {g : α → Option β} (hnext : ∀ a t b rest, (next a).Reads t b rest ↔ g a = some b ∧ t = rest) :
    Decodes (r >>= next) fun v => (f v).bind g where
  sound hread := by
    obtain ⟨a, _, hr, hb⟩ := reads_bind.mp hread
    obtain ⟨hnext, rfl⟩ := (hnext _ _ _ _).mp hb
    obtain ⟨g, core, v, hg, hcore, ha, rfl⟩ := h.sound hr
    exact ⟨g, core, v, hg, hcore, Option.bind_eq_some_iff.mpr ⟨a, ha, hnext⟩, rfl⟩
  complete hg hcore hb hrest := by
    obtain ⟨a, ha, hb⟩ := Option.bind_eq_some_iff.mp hb
    exact reads_bind.mpr ⟨a, _, h.complete hg hcore ha hrest, (hnext _ _ _ _).mpr ⟨hb, rfl⟩⟩

theorem DecodesMember.congr {r : Reader α} {f f' : Value → Option α} (h : DecodesMember r f)
    (hf : ∀ v, f' v = f v) : DecodesMember r f' :=
  funext hf ▸ h

/-- The values of an array of two strings. -/
def Value.twoStrings? : Value → Option (Text × Text)
  | .array [.string a, .string b] => some (a, b)
  | _ => none

/-- The key of an object whose only value is `null`. -/
def Value.soleKey? : Value → Option Text
  | .object [(k, .null)] => some k
  | _ => none

/-- What a name stands for, which is given as a string or as a key. -/
def Value.choice? (ofName? : String → Option α) (v : Value) : Option α :=
  (v.string?.or v.soleKey?).bind fun name => ofName? (String.ofList name)

theorem reads_named (result : Option α) (c : Cause) {t rest : Text} {a : α} :
    (match result with
      | some a => pure a
      | none => fail c : Reader α).Reads t a rest ↔ result = some a ∧ t = rest := by
  cases result <;> simp

theorem Value.string?_eq_some {v : Value} {t : Text} : v.string? = some t ↔ v = .string t := by
  cases v <;> simp [Value.string?]

theorem Value.twoStrings?_eq_some {v : Value} {a b : Text} :
    v.twoStrings? = some (a, b) ↔ v = .array [.string a, .string b] := by
  constructor
  · intro h
    unfold Value.twoStrings? at h
    split at h
    · cases h
      rfl
    · cases h
  · rintro rfl
    rfl

theorem decodes_twoStrings : Decodes twoStrings Value.twoStrings? where
  sound {t rest ab} hread := by
    obtain ⟨g, u, g', tail, hg, rfl, hg', htail, hbody⟩ := reads_bracketed.mp hread
    obtain ⟨g₁, _, hg₁, -, rfl, hfirst⟩ := reads_due_first.mp hbody
    obtain ⟨a, _, ha, hnext⟩ := reads_bind.mp hfirst
    obtain ⟨g₁', core, v, hg₁', hcore, hv, rfl⟩ := decodes_string.sound ha
    obtain rfl := Value.string?_eq_some.mp hv
    obtain ⟨g₂, _, hg₂, rfl, hdue⟩ := (reads_due_next (by decide)).mp hnext
    obtain ⟨g₃, _, hg₃, -, rfl, hsecond⟩ := reads_due_first.mp hdue
    obtain ⟨b, _, hb, hpair⟩ := reads_bind.mp hsecond
    obtain ⟨g₃', core', v, hg₃', hcore', hv, htext⟩ := decodes_string.sound hb
    obtain rfl := Value.string?_eq_some.mp hv
    obtain ⟨rfl, rfl⟩ := reads_pure.mp hpair
    let items : List (Spaced Item) :=
      [⟨g₁ ++ g₁', ⟨core, .string a⟩, g₂⟩, ⟨g₃ ++ g₃', ⟨core', .string b⟩, g'⟩]
    have hlayout : IsLaidOut items tail :=
      ⟨by simp [items, Spaced.HasGaps, hg₁.append hg₁', hg₂, hg₃.append hg₃', hg'], htail,
        fun h => absurd h (List.cons_ne_nil _ _)⟩
    refine ⟨g, _, _, hg, .array hlayout (by simp [items, hcore, hcore']), rfl, ?_⟩
    simp [items, enclosed, separated, Spaced.text, htext]
  complete {g core rest v ab} hg hcore hab hrest := by
    obtain ⟨a, b⟩ := ab
    obtain rfl := Value.twoStrings?_eq_some.mp hab
    generalize hv : Value.array [.string a, .string b] = v at hcore
    cases hcore with
    | @array items tail hlayout hitems =>
      obtain ⟨i, j, rfl, hi, hj⟩ : ∃ i j, items = [i, j] ∧ i.content.value = .string a ∧
          j.content.value = .string b := by
        rcases items with - | ⟨i, - | ⟨j, - | ⟨k, items⟩⟩⟩ <;> simp_all
      obtain ⟨hgaps, htail, -⟩ := hlayout
      obtain ⟨⟨hbefore, hafter⟩, ⟨hbefore', hafter'⟩⟩ : i.HasGaps ∧ j.HasGaps := by
        simpa using hgaps
      obtain ⟨hfirst, hsecond⟩ : Spells i.content.text (.string a) ∧
          Spells j.content.text (.string b) := by simpa [hi, hj] using hitems
      have htext : enclosed '[' ']' ([i, j].map (Spaced.text Item.text)) tail ++ rest =
          '[' :: (i.before ++ (i.content.text ++ (i.after ++ ',' :: (j.before ++
            (j.content.text ++ (j.after ++ tail ++ ']' :: rest)))))) := by
        simp [enclosed, separated, Spaced.text]
      have hends : EndsValue (j.after ++ tail ++ ']' :: rest) := by
        rw [List.append_assoc]
        exact hafter'.endsValue (endsValue_next (by simp) htail [] rest)
      refine reads_bracketed.mpr ⟨g, _, j.after, tail, hg, by rw [htext], hafter', htail, ?_⟩
      generalize j.after ++ tail ++ ']' :: rest = last at hends
      have hpair : Reads (do return (a, ← string)) (j.content.text ++ last) (a, b) last :=
        reads_bind.mpr ⟨b, _, decodes_string.complete_solid hsecond rfl hends, by simp⟩
      have hcomma : EndsValue (i.after ++ ',' :: (j.before ++ (j.content.text ++ last))) :=
        hafter.endsValue (endsValue_cons (by simp) _)
      refine reads_due_first.mpr
        ⟨i.before, _, hbefore, (hfirst.startsElement (by simp)).append _, rfl, ?_⟩
      refine reads_bind.mpr ⟨a, _, decodes_string.complete_solid hfirst rfl hcomma, ?_⟩
      refine (reads_due_next (by decide)).mpr ⟨i.after, _, hafter, rfl, ?_⟩
      exact reads_due_first.mpr
        ⟨j.before, _, hbefore', (hsecond.startsElement (by simp)).append _, rfl, hpair⟩
    | _ => cases hv

theorem Value.soleKey?_eq_some {v : Value} {k : Text} :
    v.soleKey? = some k ↔ v = .object [(k, .null)] := by
  constructor
  · intro h
    unfold Value.soleKey? at h
    split at h
    · cases h
      rfl
    · cases h
  · rintro rfl
    rfl

theorem decodes_soleKey {named : Text → Reader α} {ofName? : String → Option α}
    (hnamed : ∀ name t a rest, (named name).Reads t a rest ↔
      ofName? (String.ofList name) = some a ∧ t = rest) :
    Decodes (braced do
      blanks
      let a ← named (← key)
      memberValue do
        blanks
        word ['n', 'u', 'l', 'l'] .null .null
      return a) fun v => v.soleKey?.bind fun name => ofName? (String.ofList name) where
  sound {t rest a} hread := by
    obtain ⟨g, u, g', tail, hg, rfl, hg', htail, hbody⟩ := reads_braced.mp hread
    simp only [reads_bind, reads_blanks, hnamed, reads_pure] at hbody
    obtain ⟨_, w, hblanks, k, _, hkey, _, _, ⟨ha, rfl⟩, _, _, hvalue, rfl, rfl⟩ := hbody
    obtain ⟨p, rfl, hp⟩ := exists_key hkey
    obtain ⟨d, hhead, hd⟩ := hp.1
    obtain ⟨p, rfl⟩ := List.head?_eq_some_iff.mp hhead
    obtain ⟨g₀, hg₀, -, rfl⟩ := exists_gap hblanks
    obtain ⟨g₁, g₂, core, v, hg₁, hg₂, hcore, hv, rfl⟩ := decodes_null.memberValue.sound hvalue
    obtain rfl : v = .null := by cases v <;> simp_all [Value.null?]
    let entries : List (Spaced Entry) := [⟨g₀, ⟨d :: p, k, g₁, g₂, ⟨core, .null⟩⟩, g'⟩]
    have hlayout : IsLaidOut entries tail :=
      ⟨by simp [entries, Spaced.HasGaps, hg₀, hg'], htail, fun h => absurd h (List.cons_ne_nil _ _)⟩
    have hnamed : ∀ e ∈ entries, e.content.IsNamed := by
      simpa [entries] using Entry.IsNamed.mk hp hg₁ hg₂
    refine ⟨g, _, _, hg, .object hlayout hnamed (by simpa [entries] using hcore), ha, ?_⟩
    simp [entries, enclosed, separated, Spaced.text, Entry.text]
  complete {g core rest v a} hg hcore ha hrest := by
    obtain ⟨k, hk, ha⟩ := Option.bind_eq_some_iff.mp ha
    obtain rfl := Value.soleKey?_eq_some.mp hk
    generalize hv : Value.object [(k, .null)] = v at hcore
    cases hcore with
    | @object entries tail hlayout hkeys hitems =>
      obtain ⟨⟨before, ⟨keyText, k, g₁, g₂, ⟨core, v⟩⟩, after⟩, rfl, rfl, rfl⟩ :
          ∃ e, entries = [e] ∧ e.content.key = k ∧ e.content.item.value = .null := by
        rcases entries with - | ⟨e, - | ⟨e', entries⟩⟩ <;> simp_all [Entry.member]
      obtain ⟨hgaps, htail, -⟩ := hlayout
      obtain ⟨hbefore, hafter⟩ := hgaps _ (List.mem_singleton_self _)
      obtain ⟨hkey, hg₁, hg₂⟩ := hkeys _ (List.mem_singleton_self _)
      have hcore := hitems _ (List.mem_singleton_self _)
      have hends : EndsValue (after ++ tail ++ '\x7d' :: rest) := by
        rw [List.append_assoc]
        exact hafter.endsValue (endsValue_next (by simp) htail [] rest)
      refine reads_braced.mpr ⟨g, before ++ (keyText ++ (g₁ ++ ':' :: (g₂ ++ (core ++
        (after ++ tail ++ '\x7d' :: rest))))), after, tail, hg, ?_, hafter, htail, ?_⟩
      · simp [enclosed, separated, Spaced.text, Entry.text]
      generalize after ++ tail ++ '\x7d' :: rest = last at hends
      obtain ⟨d, hhead, hd⟩ := hkey.1
      obtain ⟨u, rfl⟩ := List.head?_eq_some_iff.mp hhead
      simp only [reads_bind, reads_blanks, hnamed, reads_pure]
      exact ⟨(), _, hbefore.afterBlanks_solid hd.1 _, k, _, hkey.2 _ (hg₁.endsKey _), a, _,
        ⟨ha, rfl⟩, (), _, decodes_null.memberValue.complete hg₁ hg₂ hcore rfl hends, rfl, rfl⟩
    | _ => cases hv

theorem decodes_choice (names : List String) (ofName? : String → Option α) :
    Decodes (choice names ofName?) (Value.choice? ofName?) := by
  refine decodes_parts (fun _ _ => not_reads_fail) fun c u hc => ?_
  by_cases hobject : c = '\x7b'
  · subst hobject
    refine ⟨_, _, decodes_soleKey fun name _ _ _ =>
      reads_named (ofName? (String.ofList name)) (.unknownVariant name names), fun v hv => ?_,
      fun a rest => ?_⟩
    · cases v with
      | object => rfl
      | _ => simp [StartsValue, startsNumber] at hv
    · simp only [braced, reads_ahead_bind, afterBlanks_solid hc, Except.ok.injEq]
      constructor
      · intro h
        exact ⟨_, rfl, h⟩
      · rintro ⟨_, rfl, h⟩
        exact h
  by_cases hquote : c = '"' ∨ c = '\x27'
  · refine ⟨_, _, decodes_string.bind fun name _ _ _ =>
      reads_named (ofName? (String.ofList name)) (.unknownVariant name names), fun v hv => ?_,
      fun a rest => ?_⟩
    · cases v with
      | string => rfl
      | _ => rcases hquote with rfl | rfl <;> simp [StartsValue, startsNumber] at hv
    · split
      next h => cases h
      next h => exact absurd (List.cons.inj h).1 hobject
      next d u _ h =>
        cases h
        rw [if_pos hquote]
        exact reads_within
  · refine ⟨_, _, decodes_failHere (.expected .stringOrObject), fun v hv => ?_, fun w rest => ?_⟩
    · cases v <;> simp_all [StartsValue, Value.choice?, Value.string?, Value.soleKey?]
    · simp [hquote]

theorem decodes_untagged (entry : String) (f : Value → Option α) :
    Decodes (untagged entry f) f :=
  (decodes_any.bind fun v _ _ _ => reads_named (f v) (.noForm entry)).congr
    (fun _ _ _ => Iff.rfl) fun _ => rfl

/-- A member takes its place in a state, unless the place is taken. -/
def Value.put (name : String) (f : Value → Option α) (earlier : Option α) (m : Text × Value) :
    Option (Option α) :=
  if String.ofList m.1 = name then if earlier.isSome then none else (f m.2).map some
  else some earlier

theorem Decodes.once {r : Reader α} {f : Value → Option α} (h : Decodes r f) (name : String)
    (earlier : Option α) (set : Option α → σ) :
    DecodesMember (do return set (← once name earlier r)) fun v =>
      (if earlier.isSome then none else (f v).map some).bind fun a => some (set a) := by
  have honce : DecodesMember (Reader.once name earlier r) fun v =>
      if earlier.isSome then none else (f v).map some := by
    unfold Reader.once
    cases earlier with
    | none => exact h.memberValue.map some
    | some a => exact ⟨fun hread => absurd hread not_reads_fail, fun _ _ _ ha => nomatch ha⟩
  exact (honce.map set).congr fun v => Option.map_eq_bind.symm

theorem decodesMember_unknown (s : σ) : DecodesMember (unknown s) fun _ => some s :=
  ((decodes_any.map fun _ => ()).memberValue.map fun _ => s).congr fun _ => rfl

theorem put_of_ne {name : String} {m : Text × Value} (hm : m.1 ≠ name.toList) (f : Value → Option α)
    (earlier : Option α) : Value.put name f earlier m = some earlier := by
  refine if_neg fun h => hm ?_
  rw [← h, String.toList_ofList]

theorem foldlM_put_some (name : String) (f : Value → Option α) (a : α)
    (members : List (Text × Value)) :
    members.foldlM (Value.put name f) (some a) =
      if (members.filter (·.1 = name.toList)).isEmpty then some (some a) else none := by
  induction members with
  | nil => rfl
  | cons m members ih =>
    by_cases hm : m.1 = name.toList
    · simp [Value.put, hm]
    · rw [List.foldlM_cons, put_of_ne hm, List.filter_cons_of_neg (by simpa using hm)]
      exact ih

/-- A member that may not be repeated is the one that a state keeps of all members. -/
theorem Value.member?_eq (members : List (Text × Value)) (name : String) (f : Value → Option α)
    (absent : Option α) : Value.member? members name f absent =
      (members.foldlM (Value.put name f) none).bind fun found => found.or absent := by
  -- Once a member with the name is found, the state refuses another one.
  induction members with
  | nil => rfl
  | cons m members ih =>
    obtain ⟨k, v⟩ := m
    by_cases hk : k = name.toList
    · subst hk
      have hput : Value.put name f none (name.toList, v) = (f v).map some := by simp [Value.put]
      rw [List.foldlM_cons, hput, Value.member?, List.filter_cons_of_pos (by simp)]
      cases hf : f v with
      | none => cases members.filter (·.1 = name.toList) <;> simp [hf]
      | some a =>
        rw [Option.map_some, Option.bind_eq_bind, Option.bind_some, foldlM_put_some]
        cases members.filter (·.1 = name.toList) <;> simp [hf]
    · rw [List.foldlM_cons, put_of_ne hk, Value.member?,
        List.filter_cons_of_neg (by simpa using hk)]
      exact ih

/-- Members may be looked up in any order. -/
theorem Value.member?_perm {members members' : List (Text × Value)} (h : members.Perm members')
    (name : String) (f : Value → Option α) (absent : Option α) :
    Value.member? members name f absent = Value.member? members' name f absent := by
  have hfound := h.filter (·.1 = name.toList)
  unfold Value.member?
  generalize members.filter (·.1 = name.toList) = found at hfound
  generalize members'.filter (·.1 = name.toList) = found' at hfound
  rcases found with - | ⟨m, - | ⟨m', found⟩⟩
  · rw [hfound.nil_eq]
  · rw [List.singleton_perm.mp hfound]
  · rcases found' with - | ⟨n, - | ⟨n', found'⟩⟩
    · exact absurd hfound.length_eq (by simp)
    · exact absurd hfound.length_eq (by simp)
    · rfl

theorem reads_required {name : String} {earlier : Option α} {t rest : Text} {a : α} :
    (required name earlier).Reads t a rest ↔ earlier = some a ∧ t = rest := by
  cases earlier <;> simp [required]

end Parts

end Json5

open Json5 Reader

def IndentAction.ofValue? : Value → Option IndentAction :=
  Value.choice? IndentAction.ofName?

namespace EnterAction

def Members.put (s : Members) (m : Text × Value) : Option Members := do
  return ⟨← Value.put "indent" IndentAction.ofValue? s.indent m,
    ← Value.put "appendText" (Value.optional? Value.string?) s.appendText m,
    ← Value.put "removeText" (Value.optional? (Value.number? Number.size)) s.removeText m⟩

def Members.finish (s : Members) : Option EnterAction :=
  s.indent.map (⟨·, s.appendText.getD none, s.removeText.getD none⟩)

theorem decodes_members : Decodes reader (Value.record? Members.put {} Members.finish) := by
  refine Json5.decodes_members (fun s k => ?_) (fun s t a rest => ?_) ({} : Members)
  · dsimp only
    split
    next hk =>
      refine ((decodes_choice _ _).once _ s.indent
        fun i => { s with indent := i }).congr fun v => ?_
      simp [Members.put, Value.put, hk, IndentAction.ofValue?]
    next hk =>
      refine (decodes_string.optional.once _ s.appendText
        fun t => { s with appendText := t }).congr fun v => ?_
      simp [Members.put, Value.put, hk]
    next hk =>
      refine ((decodes_number _).optional.once _ s.removeText
        fun n => { s with removeText := n }).congr fun v => ?_
      simp [Members.put, Value.put, hk]
    next hindent happend hremove =>
      refine (decodesMember_unknown s).congr fun v => ?_
      simp only [imp_false] at hindent happend hremove
      simp [Members.put, Value.put, hindent, happend, hremove]
  · simp only [reads_bind, reads_required, reads_pure, Members.finish, Option.map_eq_some_iff]
    constructor
    · rintro ⟨i, _, ⟨hi, rfl⟩, rfl, rfl⟩
      exact ⟨⟨i, hi, rfl⟩, rfl⟩
    · rintro ⟨⟨i, hi, rfl⟩, rfl⟩
      exact ⟨i, t, ⟨hi, rfl⟩, rfl, rfl⟩

theorem foldlM_put (members : List (Text × Value)) (s : Members) :
    members.foldlM Members.put s = do
      return ⟨← members.foldlM (Value.put "indent" IndentAction.ofValue?) s.indent,
        ← members.foldlM (Value.put "appendText" (Value.optional? Value.string?)) s.appendText,
        ← members.foldlM (Value.put "removeText" (Value.optional? (Value.number? Number.size)))
          s.removeText⟩ := by
  induction members generalizing s with
  | nil => rfl
  | cons m members ih =>
    simp only [List.foldlM_cons, Members.put]
    cases Value.put "indent" IndentAction.ofValue? s.indent m <;>
      cases Value.put "appendText" (Value.optional? Value.string?) s.appendText m <;>
      cases Value.put "removeText" (Value.optional? (Value.number? Number.size)) s.removeText m <;>
      simp [ih]

/-- What a value stands for as an action. -/
def ofValue? : Value → Option EnterAction
  | .object members => do
    return ⟨← Value.member? members "indent" IndentAction.ofValue? none,
      ← Value.member? members "appendText" (Value.optional? Value.string?) (some none),
      ← Value.member? members "removeText" (Value.optional? (Value.number? Number.size))
        (some none)⟩
  | _ => none

theorem decodes : Decodes reader ofValue? := by
  refine decodes_members.congr (fun _ _ _ => Iff.rfl) fun v => ?_
  cases v with
  | object members =>
    simp only [ofValue?, Value.record?, Value.member?_eq, foldlM_put, Option.or_some,
      Option.or_none]
    rcases members.foldlM (Value.put "indent" IndentAction.ofValue?) none with - | - | i <;>
      simp [Option.bind_assoc, Members.finish]
  | _ => rfl

end EnterAction

theorem PatternEntry.decodes : Decodes reader ofValue? :=
  decodes_untagged _ _

theorem ClosingPairEntry.decodes : Decodes reader ofValue? :=
  decodes_untagged _ _

namespace EnterRuleEntry

def Members.put (s : Members) (m : Text × Value) : Option Members := do
  return ⟨← Value.put "beforeText" PatternEntry.ofValue? s.before m,
    ← Value.put "afterText" (Value.optional? PatternEntry.ofValue?) s.after m,
    ← Value.put "previousLineText" (Value.optional? PatternEntry.ofValue?) s.previous m,
    ← Value.put "action" EnterAction.ofValue? s.action m⟩

def Members.finish (s : Members) : Option EnterRuleEntry := do
  return ⟨← s.before, s.after.getD none, s.previous.getD none, ← s.action⟩

theorem decodes_members : Decodes reader (Value.record? Members.put {} Members.finish) := by
  refine Json5.decodes_members (fun s k => ?_) (fun s t a rest => ?_) ({} : Members)
  · dsimp only
    split
    next hk =>
      refine (PatternEntry.decodes.once _ s.before
        fun p => { s with before := p }).congr fun v => ?_
      simp [Members.put, Value.put, hk]
    next hk =>
      refine (PatternEntry.decodes.optional.once _ s.after
        fun p => { s with after := p }).congr fun v => ?_
      simp [Members.put, Value.put, hk]
    next hk =>
      refine (PatternEntry.decodes.optional.once _ s.previous
        fun p => { s with previous := p }).congr fun v => ?_
      simp [Members.put, Value.put, hk]
    next hk =>
      refine (EnterAction.decodes.once _ s.action
        fun a => { s with action := a }).congr fun v => ?_
      simp [Members.put, Value.put, hk]
    next hbefore hafter hprevious haction =>
      refine (decodesMember_unknown s).congr fun v => ?_
      simp only [imp_false] at hbefore hafter hprevious haction
      simp [Members.put, Value.put, hbefore, hafter, hprevious, haction]
  · cases hbefore : s.before <;> cases haction : s.action <;>
      simp [reads_required, Members.finish, hbefore, haction, and_comm]

theorem foldlM_put (members : List (Text × Value)) (s : Members) :
    members.foldlM Members.put s = do
      return ⟨← members.foldlM (Value.put "beforeText" PatternEntry.ofValue?) s.before,
        ← members.foldlM (Value.put "afterText" (Value.optional? PatternEntry.ofValue?)) s.after,
        ← members.foldlM (Value.put "previousLineText" (Value.optional? PatternEntry.ofValue?))
          s.previous,
        ← members.foldlM (Value.put "action" EnterAction.ofValue?) s.action⟩ := by
  induction members generalizing s with
  | nil => rfl
  | cons m members ih =>
    simp only [List.foldlM_cons, Members.put]
    cases Value.put "beforeText" PatternEntry.ofValue? s.before m <;>
      cases Value.put "afterText" (Value.optional? PatternEntry.ofValue?) s.after m <;>
      cases Value.put "previousLineText" (Value.optional? PatternEntry.ofValue?) s.previous m <;>
      cases Value.put "action" EnterAction.ofValue? s.action m <;>
      simp [ih]

/-- What a value stands for as an Enter rule. -/
def ofValue? : Value → Option EnterRuleEntry
  | .object members => do
    return ⟨← Value.member? members "beforeText" PatternEntry.ofValue? none,
      ← Value.member? members "afterText" (Value.optional? PatternEntry.ofValue?) (some none),
      ← Value.member? members "previousLineText" (Value.optional? PatternEntry.ofValue?)
        (some none),
      ← Value.member? members "action" EnterAction.ofValue? none⟩
  | _ => none

theorem decodes : Decodes reader ofValue? := by
  refine decodes_members.congr (fun _ _ _ => Iff.rfl) fun v => ?_
  cases v with
  | object members =>
    simp only [ofValue?, Value.record?, Value.member?_eq, foldlM_put, Option.or_some,
      Option.or_none]
    rcases members.foldlM (Value.put "beforeText" PatternEntry.ofValue?) none with - | - | p <;>
      rcases members.foldlM (Value.put "action" EnterAction.ofValue?) none with - | - | a <;>
      simp [Option.bind_assoc, Members.finish]
  | _ => rfl

end EnterRuleEntry

namespace Configuration

def Members.put (s : Members) (m : Text × Value) : Option Members := do
  return ⟨← Value.put "brackets" (Value.optional? (Value.list? Value.twoStrings?)) s.brackets m,
    ← Value.put "autoClosingPairs" (Value.optional? (Value.list? ClosingPairEntry.ofValue?))
      s.closingPairs m,
    ← Value.put "autoCloseBefore" (Value.optional? Value.string?) s.closeBefore m,
    ← Value.put "onEnterRules" (Value.optional? (Value.list? EnterRuleEntry.ofValue?))
      s.enterRules m⟩

def Members.finish (s : Members) : Option Configuration :=
  some ⟨s.brackets.getD none, s.closingPairs.getD none, s.closeBefore.getD none,
    s.enterRules.getD none⟩

theorem decodes_members : Decodes reader (Value.record? Members.put {} Members.finish) := by
  refine Json5.decodes_members (fun s k => ?_) (fun s t a rest => ?_) ({} : Members)
  · dsimp only
    split
    next hk =>
      refine (decodes_twoStrings.list.optional.once _ s.brackets
        fun l => { s with brackets := l }).congr fun v => ?_
      simp [Members.put, Value.put, hk]
    next hk =>
      refine (ClosingPairEntry.decodes.list.optional.once _ s.closingPairs
        fun l => { s with closingPairs := l }).congr fun v => ?_
      simp [Members.put, Value.put, hk]
    next hk =>
      refine (decodes_string.optional.once _ s.closeBefore
        fun t => { s with closeBefore := t }).congr fun v => ?_
      simp [Members.put, Value.put, hk]
    next hk =>
      refine (EnterRuleEntry.decodes.list.optional.once _ s.enterRules
        fun l => { s with enterRules := l }).congr fun v => ?_
      simp [Members.put, Value.put, hk]
    next hbrackets hpairs hclose hrules =>
      refine (decodesMember_unknown s).congr fun v => ?_
      simp only [imp_false] at hbrackets hpairs hclose hrules
      simp [Members.put, Value.put, hbrackets, hpairs, hclose, hrules]
  · simp [Members.finish]

theorem foldlM_put (members : List (Text × Value)) (s : Members) :
    members.foldlM Members.put s = do
      return ⟨← members.foldlM (Value.put "brackets"
          (Value.optional? (Value.list? Value.twoStrings?))) s.brackets,
        ← members.foldlM (Value.put "autoClosingPairs"
          (Value.optional? (Value.list? ClosingPairEntry.ofValue?))) s.closingPairs,
        ← members.foldlM (Value.put "autoCloseBefore" (Value.optional? Value.string?))
          s.closeBefore,
        ← members.foldlM (Value.put "onEnterRules"
          (Value.optional? (Value.list? EnterRuleEntry.ofValue?))) s.enterRules⟩ := by
  induction members generalizing s with
  | nil => rfl
  | cons m members ih =>
    simp only [List.foldlM_cons, Members.put]
    cases Value.put "brackets" (Value.optional? (Value.list? Value.twoStrings?)) s.brackets m <;>
      cases Value.put "autoClosingPairs" (Value.optional? (Value.list? ClosingPairEntry.ofValue?))
        s.closingPairs m <;>
      cases Value.put "autoCloseBefore" (Value.optional? Value.string?) s.closeBefore m <;>
      cases Value.put "onEnterRules" (Value.optional? (Value.list? EnterRuleEntry.ofValue?))
        s.enterRules m <;>
      simp [ih]

/-- What a value stands for as a configuration. -/
def ofValue? : Value → Option Configuration
  | .object members => do
    return ⟨← Value.member? members "brackets"
        (Value.optional? (Value.list? Value.twoStrings?)) (some none),
      ← Value.member? members "autoClosingPairs"
        (Value.optional? (Value.list? ClosingPairEntry.ofValue?)) (some none),
      ← Value.member? members "autoCloseBefore" (Value.optional? Value.string?) (some none),
      ← Value.member? members "onEnterRules"
        (Value.optional? (Value.list? EnterRuleEntry.ofValue?)) (some none)⟩
  | _ => none

theorem decodes : Decodes reader ofValue? := by
  refine decodes_members.congr (fun _ _ _ => Iff.rfl) fun v => ?_
  cases v with
  | object members =>
    simp [ofValue?, Value.record?, Value.member?_eq, foldlM_put, Option.bind_assoc,
      Members.finish]
  | _ => rfl

end Configuration

end Keystroke
