import UbqGateway.Library.Interleaving

/-!
# Client programs that throw

`ClientM κ ν lbl` are the programs of `Interleaving` that may end with an error, with the loops that
clients of an optimistic store are made of: `retrying` repeats an attempt until it commits, and
`kvFold` runs over a listing.  A listing has no bound of its own, so a program takes the number
`fuel` of entries it will look at and ends with an error after that many, as a listing does that
fails.

The rules say what a program guarantees of its commits (`Wp`).  `kvFold_wp` is the rule of a
listing: what holds of all keys up to the cursor is kept while other clients commit, and holds of
all keys at the end.
-/

namespace UbqGateway

variable {κ ν lbl α β σ : Type} [DecidableEq κ]

/-- Programs that may throw; an error is the text of a thrown `Error`. -/
abbrev ClientM (κ ν lbl : Type) := ExceptT String (Prog κ ν lbl)

namespace ClientM

/-! ### Instructions -/

def kvGet (key : κ) : ClientM κ ν lbl (Option (Entry ν)) := ExceptT.lift (Prog.get key)

def kvGetIf (asked : Bool) (key : κ) : ClientM κ ν lbl (Option (Option (Entry ν))) :=
  if asked = true then do
    let entry ← kvGet key
    return some entry
  else return none

/-- Read several keys, each at a moment of its own. -/
def kvGets (keys : List κ) : ClientM κ ν lbl (κ → Option (Entry ν)) :=
  ExceptT.lift (Prog.gets keys)

def dateNow : ClientM κ ν lbl ℤ := ExceptT.lift Prog.clock

def kvCommit (label : lbl) (checks : List (Check κ ν)) (writes : List (Write κ ν)) :
    ClientM κ ν lbl Bool :=
  ExceptT.lift (Prog.transaction label checks writes)

/-- The next entry of the listing of the keys that satisfy `p`. -/
def kvNext (p : κ → Bool) (cursor : Cursor κ) : ClientM κ ν lbl (Cursor κ × Option (κ × Entry ν)) :=
  ExceptT.lift (.next p cursor fun cursor entry => .pure (cursor, entry))

/-- The result of a function that may throw. -/
def orThrow (result : Except String α) : ClientM κ ν lbl α := ExceptT.mk (.pure result)

/-- The result of a program, its error included. -/
def outcomeOf (x : ClientM κ ν lbl α) : ClientM κ ν lbl (Except String α) :=
  ExceptT.mk (x.run >>= fun result => .pure (.ok result))

/-- `try … finally …`: an error of the second program replaces the result of the first. -/
def tryFinally (x : ClientM κ ν lbl α) (after : ClientM κ ν lbl Unit) : ClientM κ ν lbl α := do
  let result ← outcomeOf x
  after
  orThrow result

/-- The attempts of an optimistic client: the next one is made while they answer `none`. -/
def retrying (attempt : ClientM κ ν lbl (Option α)) (exhausted : ClientM κ ν lbl α) :
    ℕ → ClientM κ ν lbl α
  | 0 => exhausted
  | n + 1 => do
    match ← attempt with
    | some result => return result
    | none => retrying attempt exhausted n

/-- A loop over a listing. -/
def kvFold (p : κ → Bool) (f : σ → κ × Entry ν → σ) : ℕ → Cursor κ → σ → ClientM κ ν lbl σ
  | 0, _, _ => throw "listing interrupted"
  | fuel + 1, cursor, state => do
    let (cursor, listed) ← kvNext p cursor
    match listed with
    | none => return state
    | some entry => kvFold p f fuel cursor (f state entry)

end ClientM

/-- A clock showed `t`, now or earlier. -/
def World.Showed (clockOk : ℤ → ℤ → Prop) (w : World κ ν lbl) (t : ℤ) : Prop :=
  ∃ time ≤ w.time, clockOk time t

theorem World.Showed.mono {v w : World κ ν lbl} (h : v.Showed clockOk t) (hle : v.Le w) :
    w.Showed clockOk t := by
  obtain ⟨time, htime, hok⟩ := h
  exact ⟨time, htime.trans hle.time, hok⟩

/-! ### Rules -/

section Rules

open ClientM

variable [LinearOrder κ] {clockOk : ℤ → ℤ → Prop} {I : Kv κ ν → Prop}
  {G : World κ ν lbl → lbl → List (Write κ ν) → Prop} {Q : World κ ν lbl → Except String β → Prop}
  {w : World κ ν lbl}

variable {key : κ}

theorem kvGet_bind
    (h : ∀ v, w.Le v → Run I G v → ∀ r, ReadIn w v key r → Wp clockOk I G Q (f r).run v) :
    Wp clockOk I G Q (kvGet key >>= f).run w :=
  Wp.bindExcept fun v hle hv got hgot =>
    h v hle hv (got key) (hgot key (List.mem_singleton_self key))

theorem kvGets_bind {keys : List κ} {f : (κ → Option (Entry ν)) → ClientM κ ν lbl β}
    (h : ∀ v, w.Le v → Run I G v → ∀ got, (∀ k ∈ keys, ReadIn w v k (got k)) →
      Wp clockOk I G Q (f got).run v) : Wp clockOk I G Q (kvGets keys >>= f).run w :=
  Wp.bindExcept fun v hle hv got hgot => h v hle hv got hgot

theorem kvGetIf_bind {asked : Bool} {f : Option (Option (Entry ν)) → ClientM κ ν lbl β}
    (h : ∀ v, w.Le v → ∀ entry : Option (Option (Entry ν)), entry.isSome = asked →
      (∀ r, entry = some r → ReadIn w v key r) → Wp clockOk I G Q (f entry).run v) :
    Wp clockOk I G Q (kvGetIf asked key >>= f).run w := by
  refine Wp.bindExcept ?_
  cases asked with
  | true =>
    refine kvGet_bind fun v hle _ r hr => ?_
    exact h v hle (some r) rfl fun r' hr' => Option.some.inj hr' ▸ hr
  | false => exact h w (World.Le.refl w) none rfl nofun

theorem dateNow_bind
    (h : ∀ v, w.Le v → Run I G v → ∀ now, v.Showed clockOk now → Wp clockOk I G Q (f now).run v) :
    Wp clockOk I G Q (dateNow >>= f).run w :=
  Wp.bindExcept fun v hle hv t ht => h v hle hv t ⟨v.time, le_rfl, ht⟩

variable {p : κ → Bool}

theorem kvNext_bind {cursor : Cursor κ} {f : Cursor κ × Option (κ × Entry ν) → ClientM κ ν lbl β}
    (h : ∀ v, w.Le v → Run I G v → ∀ c r, NextIn w v p cursor c r →
      Wp clockOk I G Q (f (c, r)).run v) : Wp clockOk I G Q (kvNext p cursor >>= f).run w :=
  Wp.bindExcept fun v hle hv c r hr => h v hle hv c r hr

variable {label : lbl} {checks : List (Check κ ν)} {writes : List (Write κ ν)}
  {f : Bool → ClientM κ ν lbl β}

theorem kvCommit_bind
    (hok : ∀ v, w.Le v → Run I G v → v.store.PassesAll checks →
      G v label writes ∧ Wp clockOk I G Q (f true).run (v.commit label writes))
    (hconf : ∀ v, w.Le v → Run I G v → Wp clockOk I G Q (f false).run v) :
    Wp clockOk I G Q (kvCommit label checks writes >>= f).run w :=
  Wp.bindExcept fun v hle hv => ⟨hok v hle hv, fun _ => hconf v hle hv⟩

theorem kvCommit_bind_unchecked
    (h : ∀ v, w.Le v → Run I G v →
      G v label writes ∧ Wp clockOk I G Q (f true).run (v.commit label writes)) :
    Wp clockOk I G Q (kvCommit label [] writes >>= f).run w :=
  Wp.bindExcept fun v hle hv =>
    ⟨fun _ => h v hle hv, fun hfls => absurd nofun hfls⟩

variable {P : World κ ν lbl → Except String α → Prop} {x : ClientM κ ν lbl α}
  {f : α → ClientM κ ν lbl β}

theorem Wp.seq (hx : Wp clockOk I G P x.run w)
    (hf : ∀ v a, w.Le v → P v (.ok a) → Wp clockOk I G Q (f a).run v)
    (herr : ∀ v e, w.Le v → P v (.error e) → Q v (.error e)) :
    Wp clockOk I G Q (x >>= f).run w := by
  refine Wp.bindExcept (Wp.mono ?_ hx.le)
  rintro v (e | a) ⟨hle, hP⟩
  · exact herr v e hle hP
  · exact hf v a hle hP

/-- What a program ends with, its error included, is what the next one starts with. -/
theorem outcomeOf_bind {f : Except String α → ClientM κ ν lbl β} (hx : Wp clockOk I G P x.run w)
    (hf : ∀ v r, w.Le v → P v r → Wp clockOk I G Q (f r).run v) :
    Wp clockOk I G Q (outcomeOf x >>= f).run w := by
  refine Wp.bindExcept (Wp.bind (Wp.mono ?_ hx.le))
  intro v r hr
  exact hf v r hr.1 hr.2

variable {after : ClientM κ ν lbl Unit}

/-- The rule of `try … finally`. -/
theorem tryFinally_wp {x : ClientM κ ν lbl β} (hx : Wp clockOk I G Q x.run w)
    (haft : ∀ v r, w.Le v → Q v r → Wp clockOk I G
      (fun u o => match o with
        | .ok _ => Q u r
        | .error e => Q u (.error e)) after.run v) :
    Wp clockOk I G Q (tryFinally x after).run w := by
  refine outcomeOf_bind hx fun v r hle hr => ?_
  refine Wp.seq (haft v r hle hr) (fun u o _ hu => ?_) fun u e _ hu => hu
  exact hu

variable {R : World κ ν lbl → Prop}

/-- The rule of attempts: `R` is what every attempt may start from. -/
theorem retrying_wp {attempt : ClientM κ ν lbl (Option β)} {exhausted : ClientM κ ν lbl β}
    (hatt : ∀ v, R v → Wp clockOk I G (fun u r => match r with
      | .ok (some a) => Q u (.ok a)
      | .ok none => R u
      | .error e => Q u (.error e)) attempt.run v)
    (hexh : ∀ v, R v → Wp clockOk I G Q exhausted.run v) (n : ℕ) :
    ∀ v, R v → Wp clockOk I G Q (retrying attempt exhausted n).run v := by
  induction n with
  | zero => exact hexh
  | succ _ ih =>
    intro v hv
    refine Wp.seq (hatt v hv) (fun u a _ hu => ?_) fun u e _ hu => hu
    cases a with
    | some a => exact hu
    | none => exact ih u hu

/-- **The rule of a listing.**  `Inv v a s` speaks about the keys up to `a`; it is kept while other
clients commit, the next entry extends it, and at the end it speaks about all keys. -/
theorem kvFold_wp {f : σ → κ × Entry ν → σ} {Q : World κ ν lbl → Except String σ → Prop}
    (Inv : World κ ν lbl → Option κ → σ → Prop) (n₀ : ℕ)
    (hstb : ∀ v v' a s, Inv v a s → v.Le v' → Run I G v' → Inv v' a s)
    (hnext : ∀ v n a s k e, Run I G v → n₀ ≤ n → n ≤ v.length → Inv v a s →
      FirstAfter (v.storeAt n) p a (some (k, e)) → Inv v (some k) (f s (k, e)))
    (hdone : ∀ v n a s, Run I G v → n₀ ≤ n → n ≤ v.length → Inv v a s →
      FirstAfter (v.storeAt n) p a none → Q v (.ok s)) (herr : ∀ v e, Q v (.error e)) (fuel : ℕ) :
    ∀ cursor s w, n₀ ≤ cursor.since.getD w.length → n₀ ≤ w.length → Inv w cursor.after s →
      Wp clockOk I G Q (kvFold p f fuel cursor s).run w := by
  induction fuel with
  | zero => exact fun cursor s w _ _ _ => herr w _
  | succ fuel ih =>
    intro cursor s w hsnc hw hinv
    refine kvNext_bind fun v hle hv c r hnextIn => ?_
    obtain ⟨n, hn, hnv, hfst, rfl⟩ := hnextIn
    have hinv' := hstb w v cursor.after s hinv hle hv
    cases r with
    | none => exact hdone v n cursor.after s hv (hsnc.trans hn) hnv hinv' hfst
    | some entry =>
      obtain ⟨k, e⟩ := entry
      refine ih _ _ v (hsnc.trans hn) (hw.trans hle.length_le) ?_
      exact hnext v n cursor.after s k e hv (hsnc.trans hn) hnv hinv' hfst

/-! ### Guarantees without a result -/

variable (clockOk I G) in
/-- The commits of a program satisfy `G`. -/
abbrev Guarantees (p : ClientM κ ν lbl α) (w : World κ ν lbl) : Prop :=
  Wp clockOk I G (fun _ _ => True) p.run w

theorem Guarantees.bind (hx : Guarantees clockOk I G x w)
    (hf : ∀ v a, w.Le v → Guarantees clockOk I G (f a) v) : Guarantees clockOk I G (x >>= f) w :=
  Wp.seq hx (fun v a hle _ => hf v a hle) fun _ _ _ _ => trivial

theorem Guarantees.bindFrame (hR : ∀ v v', R v → v.Le v' → Run I G v' → R v') (hw : R w)
    (hx : Guarantees clockOk I G x w) (hf : ∀ v a, R v → Guarantees clockOk I G (f a) v) :
    Guarantees clockOk I G (x >>= f) w :=
  Wp.seq (Wp.frame hR hw hx) (fun v a _ h => hf v a h.1) fun _ _ _ _ => trivial

theorem Guarantees.kvCommit
    (h : ∀ v, w.Le v → Run I G v → v.store.PassesAll checks → G v label writes) :
    Guarantees clockOk I G (kvCommit label checks writes) w :=
  fun v hle hv => ⟨fun hpass => ⟨h v hle hv hpass, trivial⟩, fun _ => trivial⟩

theorem Guarantees.tryFinally (hx : Guarantees clockOk I G x w)
    (haft : ∀ v, w.Le v → Guarantees clockOk I G after v) :
    Guarantees clockOk I G (tryFinally x after) w :=
  tryFinally_wp hx fun v _ hle _ => Wp.mono (fun _ r _ => by cases r <;> trivial) (haft v hle)

/-- `R` is kept while other clients commit, and every attempt may rely on it. -/
theorem Guarantees.retrying (hR : ∀ v v', R v → v.Le v' → Run I G v' → R v')
    (hatt : ∀ v, R v → Guarantees clockOk I G attempt v)
    (hexh : ∀ v, R v → Guarantees clockOk I G exhausted v) (n : ℕ) :
    ∀ v, R v → Guarantees clockOk I G (retrying attempt exhausted n) v := by
  refine retrying_wp (fun v hv => ?_) hexh n
  refine Wp.mono ?_ (Wp.frame hR hv (hatt v hv))
  rintro u (e | _ | a) ⟨hu, -⟩
  · trivial
  · exact hu
  · trivial

/-- A loop over a listing makes no commits. -/
theorem Guarantees.kvFold (p : κ → Bool) (f : σ → κ × Entry ν → σ) (fuel : ℕ) (cursor : Cursor κ)
    (s : σ) : Guarantees clockOk I G (kvFold p f fuel cursor s) w := by
  refine kvFold_wp (fun _ _ _ => True) 0 (fun _ _ _ _ h _ _ => h)
    (fun _ _ _ _ _ _ _ _ _ h _ => h) (fun _ _ _ _ _ _ _ h _ => h) (fun _ _ => trivial)
    fuel cursor s w (Nat.zero_le _) (Nat.zero_le _) trivial

end Rules

end UbqGateway
