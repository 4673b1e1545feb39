import ApiShapes.Glob.Match
import Mathlib.Data.List.Chain

/-!
# What a pattern matches

* `GlobPattern.Matches` : a text matches a pattern, token by token, with stretches of any length for stars;
* `GlobPattern.Aligned` : every `**` stands at the start or behind a slash, as it does in a pattern that was
  read;
* `Tried` : how it ends to give a star one stretch after the other, from the shortest on;
* `settles_matchFrom` : success and mismatch are what they say, and a text that was exhausted has no end that
  matches either. This is why a star may stop trying there;
* `accepts_iff_matches` : the search finds a match exactly if there is one.
-/

namespace ApiShapes

def GlobToken.opens (token : GlobToken) : Bool :=
  token == .char '/' || token == .anyDirectories

namespace GlobPattern

/-- A star may stop between these two: a `*` behind a stretch without slashes, a `**` behind a slash and at
either end of the text. -/
def Stops (directories : Bool) (stretch rest : List Char) : Prop :=
  if directories then stretch = [] ∨ stretch.getLast? = some '/' ∨ rest = [] else '/' ∉ stretch

inductive Matches : GlobPattern → List Char → Prop where
  | nil : Matches [] []
  | one {token : GlobToken} {tokens : GlobPattern} {c : Char} {cs : List Char}
      (h : takes c token = true) (rest : Matches tokens cs) : Matches (token :: tokens) (c :: cs)
  | sequence {tokens : GlobPattern} {stretch cs : List Char} (h : Stops false stretch cs)
      (rest : Matches tokens cs) : Matches (.anySequence :: tokens) (stretch ++ cs)
  | directories {tokens : GlobPattern} {stretch cs : List Char} (h : Stops true stretch cs)
      (rest : Matches tokens cs) : Matches (.anyDirectories :: tokens) (stretch ++ cs)

/-- Every `**` stands at the start, behind a slash or behind another `**`. -/
def Aligned (pattern : GlobPattern) : Prop :=
  pattern.IsChain fun token next => next = .anyDirectories → token.opens = true

variable {token : GlobToken} {tokens : GlobPattern} {directories : Bool} {c : Char}
  {cs stretch s : List Char}

/-! ## Matches by the first token -/

def star (directories : Bool) : GlobToken :=
  if directories then .anyDirectories else .anySequence

def isOne (token : GlobToken) : Prop := ∀ directories, token ≠ star directories

theorem matches_one_iff (hone : isOne token) : Matches (token :: tokens) cs ↔
    ∃ c s, cs = c :: s ∧ takes c token = true ∧ Matches tokens s := by
  constructor
  · intro h
    cases h with
    | one h rest => exact ⟨_, _, rfl, h, rest⟩
    | sequence => exact absurd rfl (hone false)
    | directories => exact absurd rfl (hone true)
  · rintro ⟨c, s, rfl, h, rest⟩
    exact .one h rest

theorem matches_star_iff : Matches (star directories :: tokens) cs ↔
    ∃ stretch s, cs = stretch ++ s ∧ Stops directories stretch s ∧ Matches tokens s := by
  cases directories with
  | false =>
    constructor
    · intro h
      cases h with
      | one h rest => cases h
      | sequence h rest => exact ⟨_, _, rfl, h, rest⟩
    · rintro ⟨stretch, s, rfl, h, rest⟩
      exact .sequence h rest
  | true =>
    constructor
    · intro h
      cases h with
      | one h rest => cases h
      | directories h rest => exact ⟨_, _, rfl, h, rest⟩
    · rintro ⟨stretch, s, rfl, h, rest⟩
      exact .directories h rest

/-! ## One stretch after the other -/

/-- The outcome of what follows a star, tried at all places where the star may stop: a mismatch at all of
them, or else what comes of the first place without one. -/
inductive Tried (stop : List Char → List Char → Prop) (rest : Bool → List Char → Verdict)
    (cs : List Char) : Verdict → Prop where
  | mismatch (h : ∀ stretch s, cs = stretch ++ s → stop stretch s → ∃ b, rest b s = .mismatch) :
      Tried stop rest cs .mismatch
  | settled {verdict : Verdict} (hne : verdict ≠ .mismatch) {stretch s : List Char} {b : Bool}
      (hsplit : cs = stretch ++ s) (hstop : stop stretch s) (h : rest b s = verdict)
      (before : ∀ stretch' s', cs = stretch' ++ s' → stop stretch' s' →
        stretch'.length < stretch.length → ∃ b, rest b s' = .mismatch) :
      Tried stop rest cs verdict

section Tried

variable {stop stop' : List Char → List Char → Prop} {rest : Bool → List Char → Verdict}
  {verdict : Verdict} {b : Bool}

theorem Tried.congr (h : Tried stop rest cs verdict)
    (hstop : ∀ stretch s, cs = stretch ++ s → (stop stretch s ↔ stop' stretch s)) :
    Tried stop' rest cs verdict := by
  cases h with
  | mismatch h => exact .mismatch fun stretch s hsplit hs => h stretch s hsplit ((hstop _ _ hsplit).2 hs)
  | settled hne hsplit hs h before =>
    exact .settled hne hsplit ((hstop _ _ hsplit).1 hs) h fun stretch' s' hsplit' hs' =>
      before stretch' s' hsplit' ((hstop _ _ hsplit').2 hs')

/-- A character that the star takes, and all stops behind it. -/
theorem Tried.cons (h : Tried stop rest cs verdict)
    (hstop : ∀ stretch s, cs = stretch ++ s → (stop' (c :: stretch) s ↔ stop stretch s))
    (hnil : ¬ stop' [] (c :: cs)) : Tried stop' rest (c :: cs) verdict := by
  have hlonger : ∀ stretch s, c :: cs = stretch ++ s → stop' stretch s →
      ∃ tail, stretch = c :: tail ∧ cs = tail ++ s := by
    intro stretch s hsplit hs
    cases stretch with
    | nil =>
      rw [List.nil_append] at hsplit
      exact absurd (hsplit ▸ hs) hnil
    | cons d tail =>
      obtain ⟨rfl, hrest⟩ := List.cons.inj hsplit
      exact ⟨tail, rfl, hrest⟩
  cases h with
  | mismatch h =>
    refine .mismatch fun stretch s hsplit hs => ?_
    obtain ⟨tail, rfl, hrest⟩ := hlonger stretch s hsplit hs
    exact h tail s hrest ((hstop _ _ hrest).1 hs)
  | @settled _ hne stretch s b hsplit hs h before =>
    have htaken : c :: cs = c :: stretch ++ s := by rw [hsplit]; rfl
    refine .settled hne htaken ((hstop _ _ hsplit).2 hs) h ?_
    intro stretch' s' hsplit' hs' hlt
    obtain ⟨tail, rfl, hrest⟩ := hlonger stretch' s' hsplit' hs'
    rw [List.length_cons, List.length_cons, Nat.add_lt_add_iff_right] at hlt
    exact before tail s' hrest ((hstop _ _ hrest).1 hs') hlt

/-- The star takes nothing, and goes on if this does not settle it. -/
theorem Tried.first (h : Tried stop rest cs verdict) (b : Bool) :
    Tried (fun stretch s => stretch = [] ∨ stop stretch s) rest cs
      (match rest b cs with
        | .mismatch => verdict
        | found => found) := by
  by_cases hfirst : rest b cs = .mismatch
  · rw [hfirst]
    have hnil : ∀ stretch s, cs = stretch ++ s → stretch = [] → ∃ b, rest b s = .mismatch := by
      rintro _ s rfl rfl
      exact ⟨b, hfirst⟩
    cases h with
    | mismatch h =>
      exact .mismatch fun stretch s hsplit hs => hs.elim (hnil stretch s hsplit) (h stretch s hsplit)
    | settled hne hsplit hs h before =>
      exact .settled hne hsplit (.inr hs) h fun stretch' s' hsplit' hs' hlt =>
        hs'.elim (hnil stretch' s' hsplit') fun hs' => before stretch' s' hsplit' hs' hlt
  · have hsettled : (match rest b cs with
        | .mismatch => verdict
        | found => found) = rest b cs := by
      split
      · contradiction
      · rfl
    rw [hsettled]
    exact .settled hfirst (List.nil_append cs).symm (.inl rfl) rfl fun _ _ _ _ hlt =>
      absurd hlt (Nat.not_lt_zero _)

/-- The stops that are left once the star has taken nothing. -/
def Begun (directories : Bool) (stretch rest : List Char) : Prop :=
  (stretch ≠ [] ∨ rest = []) ∧ Stops directories stretch rest

theorem tried_giveStar (directories : Bool) (rest : Bool → List Char → Verdict) (b : Bool)
    (cs : List Char) : Tried (Begun directories) rest cs (giveStar directories rest b cs) := by
  induction cs generalizing b with
  | nil =>
    have hstop : Begun directories [] [] := ⟨.inr rfl, by cases directories <;> simp [Stops]⟩
    by_cases h : rest b [] = .mismatch
    · rw [giveStar, h]
      refine .mismatch fun stretch s hsplit _ => ?_
      obtain ⟨rfl, rfl⟩ := List.append_eq_nil_iff.1 hsplit.symm
      exact ⟨b, h⟩
    · exact .settled h (List.nil_append []).symm hstop rfl fun _ _ _ _ hlt =>
        absurd hlt (Nat.not_lt_zero _)
  | cons c cs ih =>
    have hnil : ¬ Begun directories [] (c :: cs) := fun h => by simpa using h.1
    rw [giveStar]
    split
    · -- a `**` within a component
      rename_i hinside
      obtain ⟨rfl, hc⟩ : directories = true ∧ c ≠ '/' := by simpa using hinside
      refine (ih _).cons (fun stretch s hsplit => ?_) hnil
      cases stretch <;> simp [Begun, Stops, List.getLast?_cons_cons, hc]
    · split
      · -- a `*` in front of a slash
        rename_i hslash
        obtain ⟨rfl, rfl⟩ : directories = false ∧ c = '/' := by simpa using hslash
        refine .mismatch fun stretch s hsplit hs => ?_
        cases stretch with
        | nil => exact absurd (by rwa [← List.nil_append s, ← hsplit] at hs) hnil
        | cons d tail =>
          obtain ⟨rfl, -⟩ := List.cons.inj hsplit
          exact absurd List.mem_cons_self hs.2
      · rename_i hinside hslash
        refine ((ih _).first _).cons (fun stretch s hsplit => ?_) hnil
        cases directories with
        | true =>
          obtain rfl : c = '/' := by simpa using hinside
          cases stretch <;> simp [Begun, Stops, List.getLast?_cons_cons]
        | false =>
          have hc : '/' ≠ c := by
            rintro rfl
            exact hslash rfl
          cases stretch <;> simp [Begun, Stops, hc]

theorem tried_matchStar (directories : Bool) (rest : Bool → List Char → Verdict) (b : Bool)
    (cs : List Char) : Tried (Stops directories) rest cs (matchStar directories rest b cs) := by
  refine ((tried_giveStar directories rest b cs).first b).congr fun stretch s _ => ?_
  by_cases hnil : stretch = []
  · subst hnil
    cases directories <;> simp [Stops]
  · simp [Begun, hnil]

end Tried

/-! ## The search -/

/-- The end `s` of a text comes into question for the pattern: one that starts with `**` is only tried
behind slashes and at either end. -/
def InPlace (tokens : GlobPattern) (stretch s : List Char) : Prop :=
  tokens.head? = some .anyDirectories → Stops true stretch s

/-- What the verdict says about a text. -/
def Settles (tokens : GlobPattern) (cs : List Char) : Verdict → Prop
  | .success => Matches tokens cs
  | .mismatch => ¬ Matches tokens cs
  | .exhausted => ∀ stretch s, cs = stretch ++ s → InPlace tokens stretch s → ¬ Matches tokens s

theorem eq_slash_of_opens (hone : isOne token) (hopens : token.opens = true)
    (htakes : takes c token = true) : c = '/' := by
  rcases Bool.or_eq_true _ _ ▸ hopens with h | h
  · obtain rfl := beq_iff_eq.1 h
    exact beq_iff_eq.1 htakes
  · exact absurd (beq_iff_eq.1 h) (hone true)

theorem settles_one (hone : isOne token)
    (halign : tokens.head? = some .anyDirectories → token.opens = true) {verdict : Verdict}
    (htakes : takes c token = true) (h : Settles tokens cs verdict) :
    Settles (token :: tokens) (c :: cs) verdict := by
  cases verdict with
  | success => exact .one htakes h
  | mismatch =>
    intro hmatch
    obtain ⟨_, _, hsplit, -, hrest⟩ := (matches_one_iff hone).1 hmatch
    obtain ⟨rfl, rfl⟩ := List.cons.inj hsplit
    exact h hrest
  | exhausted =>
    intro stretch s hsplit _ hmatch
    obtain ⟨d, s, rfl, hd, hrest⟩ := (matches_one_iff hone).1 hmatch
    cases stretch with
    | nil =>
      obtain ⟨rfl, rfl⟩ := List.cons.inj hsplit
      exact h [] _ rfl (fun _ => .inl rfl) hrest
    | cons _ stretch =>
      obtain ⟨rfl, rfl⟩ := List.cons.inj hsplit
      refine h (stretch ++ [d]) s (by simp) (fun hhead => ?_) hrest
      rw [eq_slash_of_opens hone (halign hhead) hd]
      exact .inr (.inl List.getLast?_concat)

theorem Stops.append {before stretch rest : List Char} (hbefore : Stops true before (stretch ++ rest))
    (h : Stops true stretch rest) : Stops true (before ++ stretch) rest := by
  by_cases hnil : stretch = []
  · subst hnil
    rwa [List.append_nil]
  · refine .inr (h.resolve_left hnil |>.imp_left fun hslash => ?_)
    rw [List.getLast?_append, hslash]
    rfl

theorem Stops.of_append {before stretch rest : List Char} (h : Stops true (before ++ stretch) rest) :
    Stops true stretch rest := by
  by_cases hnil : stretch = []
  · exact .inl hnil
  · rcases h with h | h | h
    · exact absurd (List.append_eq_nil_iff.1 h).2 hnil
    · rw [List.getLast?_append_of_ne_nil _ hnil] at h
      exact .inr (.inl h)
    · exact .inr (.inr h)

/-- Of two ways to cut a text, one cuts off as much as the other, or more. -/
theorem exists_of_append_eq {first rest first' rest' : List Char} (h : first ++ rest = first' ++ rest')
    (hle : first.length ≤ first'.length) : ∃ more, first' = first ++ more ∧ rest = more ++ rest' := by
  obtain ⟨more, rfl⟩ : first <+: first' :=
    List.prefix_of_prefix_length_le (List.prefix_append first rest) (h ▸ List.prefix_append first' rest') hle
  rw [List.append_assoc, List.append_cancel_left_eq] at h
  exact ⟨more, rfl, h⟩

theorem settles_star {rest : Bool → List Char → Verdict} (hrest : ∀ b s, Settles tokens s (rest b s))
    (halign : tokens.head? = some .anyDirectories → directories = true) {verdict : Verdict}
    (h : Tried (Stops directories) rest cs verdict) :
    Settles (star directories :: tokens) cs verdict := by
  have hmismatch : ∀ b s, rest b s = .mismatch → ¬ Matches tokens s := by
    intro b s hverdict
    have hsettles := hrest b s
    rwa [hverdict] at hsettles
  cases h with
  | mismatch h =>
    intro hmatch
    obtain ⟨stretch, s, hsplit, hstop, hmatch⟩ := matches_star_iff.1 hmatch
    obtain ⟨b, hverdict⟩ := h stretch s hsplit hstop
    exact hmismatch b s hverdict hmatch
  | @settled _ hne first s b hsplit hstop h before =>
    have hsettles := hrest b s
    rw [h] at hsettles
    cases verdict with
    | mismatch => exact absurd rfl hne
    | success => exact matches_star_iff.2 ⟨first, s, hsplit, hstop, hsettles⟩
    | exhausted =>
      intro skipped _ hskipped hplace hmatch
      obtain ⟨stretch, s', rfl, hstop', hmatch⟩ := matches_star_iff.1 hmatch
      rw [← List.append_assoc] at hskipped
      by_cases hlt : (skipped ++ stretch).length < first.length
      · -- the star would stop at a place that was tried before
        have hearlier : Stops directories (skipped ++ stretch) s' := by
          cases directories with
          | true => exact (hplace rfl).append hstop'
          | false =>
            obtain ⟨more, rfl, -⟩ := exists_of_append_eq (hskipped ▸ hsplit) (Nat.le_of_lt hlt)
            exact fun hslash => hstop (List.mem_append_left _ hslash)
        obtain ⟨b', hverdict⟩ := before _ s' hskipped hearlier hlt
        exact hmismatch b' s' hverdict hmatch
      · obtain ⟨more, hmore, rfl⟩ := exists_of_append_eq (hsplit ▸ hskipped) (Nat.not_lt.1 hlt)
        refine hsettles more s' rfl (fun hhead => ?_) hmatch
        obtain rfl := halign hhead
        exact .of_append (hmore ▸ (hplace rfl).append hstop')

theorem matchFrom_one (hone : isOne token) (tokens : List GlobToken) (b : Bool) :
    matchFrom (token :: tokens) b [] = .exhausted ∧ ∀ c cs, matchFrom (token :: tokens) b (c :: cs) =
      if takes c token then matchFrom tokens (c == '/') cs else .mismatch := by
  cases token with
  | anySequence => exact absurd rfl (hone false)
  | anyDirectories => exact absurd rfl (hone true)
  | _ => exact ⟨rfl, fun _ _ => rfl⟩

theorem matchFrom_star (directories b : Bool) (cs : List Char) :
    matchFrom (star directories :: tokens) b cs = matchStar directories (matchFrom tokens) b cs := by
  cases directories <;> rfl

theorem isOne_or_star (token : GlobToken) : isOne token ∨ ∃ directories, token = star directories := by
  cases token with
  | anySequence => exact .inr ⟨false, rfl⟩
  | anyDirectories => exact .inr ⟨true, rfl⟩
  | _ => exact .inl fun directories => by cases directories <;> exact GlobToken.noConfusion

/-- The verdict about a text is right. -/
theorem settles_matchFrom (halign : Aligned tokens) (b : Bool) (cs : List Char) :
    Settles tokens cs (matchFrom tokens b cs) := by
  induction tokens generalizing b cs with
  | nil =>
    cases cs with
    | nil => exact .nil
    | cons c cs => exact fun h => by cases h
  | cons token tokens ih =>
    obtain ⟨hhead, htail⟩ := List.isChain_cons.1 halign
    have hnext : tokens.head? = some .anyDirectories → token.opens = true :=
      fun h => hhead _ h rfl
    rcases isOne_or_star token with hone | ⟨directories, rfl⟩
    · obtain ⟨hnil, hcons⟩ := matchFrom_one hone tokens b
      cases cs with
      | nil =>
        rw [hnil]
        intro stretch s hsplit _ hmatch
        obtain ⟨rfl, rfl⟩ := List.append_eq_nil_iff.1 hsplit.symm
        obtain ⟨_, _, hcons, -⟩ := (matches_one_iff hone).1 hmatch
        cases hcons
      | cons c cs =>
        rw [hcons]
        split
        · rename_i htakes
          exact settles_one hone hnext htakes (ih htail _ _)
        · rename_i htakes
          intro hmatch
          obtain ⟨_, _, hsplit, htakes', -⟩ := (matches_one_iff hone).1 hmatch
          obtain ⟨rfl, rfl⟩ := List.cons.inj hsplit
          exact htakes htakes'
    · rw [matchFrom_star]
      refine settles_star (ih htail) (fun h => ?_) (tried_matchStar directories _ b cs)
      have hopens := hnext h
      cases directories with
      | true => rfl
      | false => cases hopens

/-- The search finds a match exactly if there is one. -/
theorem accepts_iff_matches (halign : Aligned tokens) (s : String) :
    accepts tokens s = true ↔ Matches tokens s.toList := by
  have hsettles := settles_matchFrom halign true s.toList
  rw [accepts, beq_iff_eq]
  cases hverdict : matchFrom tokens true s.toList with
  | success =>
    rw [hverdict] at hsettles
    exact ⟨fun _ => hsettles, fun _ => rfl⟩
  | mismatch =>
    rw [hverdict] at hsettles
    exact ⟨nofun, fun h => absurd h hsettles⟩
  | exhausted =>
    rw [hverdict] at hsettles
    exact ⟨nofun, fun h => absurd h (hsettles [] _ rfl fun _ => .inl rfl)⟩

end GlobPattern

end ApiShapes
