import Mathlib.Data.Nat.Notation
import Mathlib.Logic.Relation
import Mathlib.Order.Defs.Unbundled

set_option autoImplicit false

/-!
# Programs with a state and a failure

A program runs on a state and either returns a value or fails; both outcomes
keep the state reached. `Ends` is the weakest precondition of a program at one
state and `Keeps` says that an invariant survives it. `Seen` judges a program
through an abstraction of its state, and `Along` relates it to a smaller machine:
so seen, it takes steps of that machine, also when it fails. The rules follow
the program text.
-/
namespace Yayatht.EffectLogic

variable {ε σ α β : Type}

def final : EStateM.Result ε σ α → σ
  | .ok _ s => s
  | .error _ s => s

@[simp] theorem final_ok (a : α) (s : σ) : final (.ok a s : EStateM.Result ε σ α) = s := rfl

@[simp] theorem final_error (e : ε) (s : σ) : final (.error e s : EStateM.Result ε σ α) = s := rfl

/-- Every value returned from `s` satisfies `Q` and every failure satisfies `E`. -/
def Ends (m : EStateM ε σ α) (s : σ) (Q : α → σ → Prop) (E : ε → σ → Prop) : Prop :=
  match m s with
  | .ok a t => Q a t
  | .error e t => E e t

theorem Ends.pure {a : α} {s : σ} {Q : α → σ → Prop} {E : ε → σ → Prop} (h : Q a s) :
    Ends (pure a) s Q E := h

theorem Ends.throw {e : ε} {s : σ} {Q : α → σ → Prop} {E : ε → σ → Prop} (h : E e s) :
    Ends (throw e) s Q E := h

theorem Ends.modify {f : σ → σ} {s : σ} {Q : PUnit → σ → Prop} {E : ε → σ → Prop}
    (h : Q ⟨⟩ (f s)) : Ends (modify f) s Q E := h

theorem get_bind_apply (f : σ → EStateM ε σ β) (s : σ) : (MonadState.get >>= f : EStateM ε σ β) s = f s s := rfl

theorem Ends.get {s : σ} {Q : σ → σ → Prop} {E : ε → σ → Prop} (h : Q s s) :
    Ends (get : EStateM ε σ σ) s Q E := h

theorem Ends.bind {m : EStateM ε σ α} {f : α → EStateM ε σ β} {s : σ} {R : α → σ → Prop}
    {Q : β → σ → Prop} {E : ε → σ → Prop} (h : Ends m s R E)
    (hf : ∀ a t, R a t → Ends (f a) t Q E) : Ends (m >>= f) s Q E := by
  unfold Ends at h ⊢
  change match EStateM.bind m f s with | .ok a t => Q a t | .error e t => E e t
  unfold EStateM.bind
  cases hm : m s with
  | ok a t =>
    rw [hm] at h
    exact hf a t h
  | error e t =>
    rw [hm] at h
    exact h

theorem Ends.mono {m : EStateM ε σ α} {s : σ} {Q R : α → σ → Prop} {E F : ε → σ → Prop}
    (h : Ends m s Q E) (hQ : ∀ a t, Q a t → R a t) (hE : ∀ e t, E e t → F e t) :
    Ends m s R F := by
  unfold Ends at h ⊢
  cases hm : m s with
  | ok a t =>
    rw [hm] at h
    exact hQ a t h
  | error e t =>
    rw [hm] at h
    exact hE e t h

theorem Ends.and {m : EStateM ε σ α} {s : σ} {Q R : α → σ → Prop} {E F : ε → σ → Prop}
    (h : Ends m s Q E) (h' : Ends m s R F) :
    Ends m s (fun a t => Q a t ∧ R a t) (fun e t => E e t ∧ F e t) := by
  unfold Ends at h h' ⊢
  cases hm : m s with
  | ok a t =>
    rw [hm] at h h'
    exact ⟨h, h'⟩
  | error e t =>
    rw [hm] at h h'
    exact ⟨h, h'⟩

theorem Ends.get_bind {f : σ → EStateM ε σ β} {s : σ} {Q : β → σ → Prop} {E : ε → σ → Prop}
    (h : Ends (f s) s Q E) : Ends (MonadState.get >>= f) s Q E := h

theorem Ends.set_bind {f : PUnit → EStateM ε σ β} {s t : σ} {Q : β → σ → Prop} {E : ε → σ → Prop}
    (h : Ends (f ⟨⟩) t Q E) : Ends (MonadStateOf.set t >>= f) s Q E := h

theorem Ends.modify_bind {g : σ → σ} {f : PUnit → EStateM ε σ β} {s : σ} {Q : β → σ → Prop} {E : ε → σ → Prop}
    (h : Ends (f ⟨⟩) (g s) Q E) : Ends (MonadState.modifyGet (fun s => (⟨⟩, g s)) >>= f) s Q E := h

theorem Ends.tryCatch {m : EStateM ε σ α} {f : ε → EStateM ε σ α} {s : σ} {Q : α → σ → Prop}
    {E F : ε → σ → Prop} (h : Ends m s Q F) (hf : ∀ e t, F e t → Ends (f e) t Q E) :
    Ends (tryCatch m f) s Q E := by
  unfold Ends at h ⊢
  change match EStateM.tryCatch m f s with | .ok a t => Q a t | .error e t => E e t
  unfold EStateM.tryCatch
  cases hm : m s with
  | ok a t =>
    rw [hm] at h
    exact h
  | error e t =>
    rw [hm] at h
    exact hf e t h

theorem Ends.self (m : EStateM ε σ α) (s : σ) :
    Ends m s (fun a t => m s = .ok a t) fun e t => m s = .error e t := by
  unfold Ends
  cases m s with
  | ok a t => rfl
  | error e t => rfl

theorem Ends.ok {m : EStateM ε σ α} {s t : σ} {a : α} {Q : α → σ → Prop} {E : ε → σ → Prop}
    (h : Ends m s Q E) (hm : m s = .ok a t) : Q a t := by
  unfold Ends at h
  rw [hm] at h
  exact h

theorem Ends.error {m : EStateM ε σ α} {s t : σ} {e : ε} {Q : α → σ → Prop} {E : ε → σ → Prop}
    (h : Ends m s Q E) (hm : m s = .error e t) : E e t := by
  unfold Ends at h
  rw [hm] at h
  exact h

theorem Ends.final {m : EStateM ε σ α} {s : σ} {P : σ → Prop}
    (h : Ends m s (fun _ t => P t) (fun _ t => P t)) : P (final (m s)) := by
  unfold Ends at h
  cases hm : m s with
  | ok a t =>
    rw [hm] at h
    exact h
  | error e t =>
    rw [hm] at h
    exact h

theorem Ends.bind_congr {m : EStateM ε σ α} {f g : α → EStateM ε σ β} {s : σ} {E : ε → σ → Prop}
    (h : Ends m s (fun a t => f a t = g a t) E) : (m >>= f) s = (m >>= g) s := by
  unfold Ends at h
  change EStateM.bind m f s = EStateM.bind m g s
  unfold EStateM.bind
  cases hm : m s with
  | ok a t =>
    rw [hm] at h
    exact h
  | error e t => rfl

/-- `m` keeps `I` when it returns, and a failure leaves a state in `J`. -/
def Keeps (I : σ → Prop) (J : ε → σ → Prop) (m : EStateM ε σ α) : Prop :=
  ∀ s, I s → Ends m s (fun _ t => I t) J

section Keeps

variable {I : σ → Prop} {J : ε → σ → Prop}

theorem Keeps.pure (a : α) : Keeps I J (pure a : EStateM ε σ α) := fun _ h => h

theorem Keeps.modify {f : σ → σ} (h : ∀ s, I s → I (f s)) :
    Keeps I J (modify f : EStateM ε σ PUnit) := h

theorem Keeps.bind {m : EStateM ε σ α} {f : α → EStateM ε σ β} (hm : Keeps I J m)
    (hf : ∀ a, Keeps I J (f a)) : Keeps I J (m >>= f) := fun s hs =>
  Ends.bind (hm s hs) fun a t ht => hf a t ht

theorem Keeps.get_bind {f : σ → EStateM ε σ β} (hf : ∀ s, I s → Ends (f s) s (fun _ t => I t) J) :
    Keeps I J (MonadState.get >>= f) := fun s hs =>
  Ends.bind (R := fun a t => a = s ∧ t = s) (Ends.get ⟨rfl, rfl⟩) (by
    rintro a t ⟨rfl, rfl⟩
    exact hf _ hs)

theorem Keeps.when_bind {p : Prop} [Decidable p] {m : EStateM ε σ PUnit} {k : PUnit → EStateM ε σ β}
    (h : Keeps I J m) (hk : Keeps I J (k ⟨⟩)) : Keeps I J (if p then m >>= k else k ⟨⟩) := by
  split
  · exact Keeps.bind h fun _ => hk
  · exact hk

theorem Keeps.either_bind {p : Prop} [Decidable p] {m n : EStateM ε σ α} {k : α → EStateM ε σ β}
    (hm : Keeps I J m) (hn : Keeps I J n) (hk : ∀ a, Keeps I J (k a)) :
    Keeps I J (if p then m >>= k else n >>= k) := by
  split
  · exact Keeps.bind hm hk
  · exact Keeps.bind hn hk

end Keeps

section Tracks

variable (P : σ → σ → Prop) (E : ε → Prop)

/-- From `s` on, `m` relates the states before and after by `P` and fails only with errors in `E`. -/
def Tracks (m : EStateM ε σ α) (s : σ) : Prop := Ends m s (fun _ t => P s t) fun e t => P s t ∧ E e

variable {P E} {s : σ}

theorem Tracks.pure [Std.Refl P] (a : α) : Tracks P E (pure a : EStateM ε σ α) s := Std.Refl.refl s

theorem Tracks.throw [Std.Refl P] {e : ε} (h : E e) : Tracks P E (throw e : EStateM ε σ α) s :=
  ⟨Std.Refl.refl s, h⟩

theorem Tracks.modify {f : σ → σ} (h : P s (f s)) : Tracks P E (modify f : EStateM ε σ PUnit) s := h

theorem Tracks.set {t : σ} (h : P s t) : Tracks P E (set t : EStateM ε σ PUnit) s := h

theorem Tracks.after [IsTrans σ P] {m : EStateM ε σ α} {t : σ} (hp : P s t) (h : Tracks P E m t) :
    Ends m t (fun _ u => P s u) fun e u => P s u ∧ E e :=
  Ends.mono h (fun _ _ hu => IsTrans.trans _ _ _ hp hu) fun _ _ hu => ⟨IsTrans.trans _ _ _ hp hu.1, hu.2⟩

theorem Tracks.bind [IsTrans σ P] {m : EStateM ε σ α} {f : α → EStateM ε σ β} (hm : Tracks P E m s)
    (hf : ∀ a t, P s t → Tracks P E (f a) t) : Tracks P E (m >>= f) s :=
  Ends.bind hm fun a t ht => Tracks.after ht (hf a t ht)

theorem Tracks.get_bind {f : σ → EStateM ε σ β} (hf : Tracks P E (f s) s) :
    Tracks P E (MonadState.get >>= f) s :=
  Ends.bind (R := fun a t => a = s ∧ t = s) (Ends.get ⟨rfl, rfl⟩) (by
    rintro a t ⟨rfl, rfl⟩
    exact hf)

theorem Tracks.when_bind [Std.Refl P] [IsTrans σ P] {p : Prop} [Decidable p] {m : EStateM ε σ PUnit}
    {k : PUnit → EStateM ε σ β} (h : p → Tracks P E m s) (hk : ∀ t, P s t → Tracks P E (k ⟨⟩) t) :
    Tracks P E (if p then m >>= k else k ⟨⟩) s := by
  split
  · rename_i hp
    exact Tracks.bind (h hp) fun _ t ht => hk t ht
  · exact hk s (Std.Refl.refl s)

theorem Tracks.either_bind [IsTrans σ P] {p : Prop} [Decidable p] {m n : EStateM ε σ α}
    {k : α → EStateM ε σ β} (hm : p → Tracks P E m s) (hn : ¬p → Tracks P E n s)
    (hk : ∀ a t, P s t → Tracks P E (k a) t) : Tracks P E (if p then m >>= k else n >>= k) s := by
  split
  · rename_i hp
    exact Tracks.bind (hm hp) hk
  · rename_i hp
    exact Tracks.bind (hn hp) hk

end Tracks

section Heeds

variable (P : σ → σ → Prop) (E : ε → Prop)

/-- Wherever it starts, `m` relates the states before and after by `P` and fails only with errors in `E`. -/
def Heeds (m : EStateM ε σ α) : Prop := ∀ s, Tracks P E m s

variable {P E}

theorem Heeds.pure [Std.Refl P] (a : α) : Heeds P E (pure a : EStateM ε σ α) := fun _ => Tracks.pure a

theorem Heeds.throw [Std.Refl P] {e : ε} (h : E e) : Heeds P E (throw e : EStateM ε σ α) := fun _ => Tracks.throw h

theorem Heeds.get [Std.Refl P] : Heeds P E (get : EStateM ε σ σ) := fun s => Std.Refl.refl s

theorem Heeds.modify {f : σ → σ} (h : ∀ s, P s (f s)) : Heeds P E (modify f : EStateM ε σ PUnit) := fun s =>
  Tracks.modify (h s)

theorem Heeds.bind [IsTrans σ P] {m : EStateM ε σ α} {f : α → EStateM ε σ β} (hm : Heeds P E m)
    (hf : ∀ a, Heeds P E (f a)) : Heeds P E (m >>= f) := fun s => Tracks.bind (hm s) fun a t _ => hf a t

theorem Heeds.get_bind {f : σ → EStateM ε σ β} (hf : ∀ s, Tracks P E (f s) s) :
    Heeds P E (MonadState.get >>= f) := fun s => Tracks.get_bind (hf s)

theorem Heeds.set_bind [IsTrans σ P] {s t : σ} {f : PUnit → EStateM ε σ β} (h : P s t)
    (hf : Heeds P E (f ⟨⟩)) : Tracks P E (MonadStateOf.set t >>= f) s :=
  Tracks.bind (Tracks.set h) fun _ u _ => hf u

theorem Heeds.tryCatch [IsTrans σ P] {m : EStateM ε σ α} {f : ε → EStateM ε σ α} (hm : Heeds P E m)
    (hf : ∀ e, E e → Heeds P E (f e)) : Heeds P E (tryCatch m f) := fun s =>
  Ends.tryCatch (hm s) fun e t ht => Tracks.after ht.1 (hf e ht.2 t)

theorem Heeds.when_bind [IsTrans σ P] {p : Prop} [Decidable p] {m : EStateM ε σ PUnit} {k : PUnit → EStateM ε σ β}
    (h : Heeds P E m) (hk : Heeds P E (k ⟨⟩)) : Heeds P E (if p then m >>= k else k ⟨⟩) := by
  split
  · exact h.bind fun _ => hk
  · exact hk

end Heeds

section Seen

variable {κ : Type} (abs : σ → κ)

/-- What `m` does to states that look like `c`: values returned satisfy `Q` and failures `E`,
both judged by how the state reached looks. -/
def Seen (m : EStateM ε σ α) (c : κ) (Q : α → κ → Prop) (E : κ → Prop) : Prop :=
  ∀ s, abs s = c → Ends m s (fun a t => Q a (abs t)) (fun _ t => E (abs t))

/-- `m` leaves the abstraction alone. -/
def Inert (m : EStateM ε σ α) : Prop :=
  ∀ s, Ends m s (fun _ t => abs t = abs s) (fun _ t => abs t = abs s)

/-- `m` leaves the abstraction alone and does not fail. -/
def Silent (m : EStateM ε σ α) : Prop :=
  ∀ s, Ends m s (fun _ t => abs t = abs s) fun _ _ => False

variable {abs} {c : κ} {E : κ → Prop}

theorem Seen.pure {a : α} {Q : α → κ → Prop} (h : Q a c) :
    Seen abs (pure a : EStateM ε σ α) c Q E := by
  rintro s rfl
  exact h

theorem Seen.throw {e : ε} {Q : α → κ → Prop} (h : E c) :
    Seen abs (throw e : EStateM ε σ α) c Q E := by
  rintro s rfl
  exact h

theorem Seen.bind {m : EStateM ε σ α} {f : α → EStateM ε σ β} {R : α → κ → Prop} {Q : β → κ → Prop}
    (h : Seen abs m c R E) (hf : ∀ a d, R a d → Seen abs (f a) d Q E) :
    Seen abs (m >>= f) c Q E := by
  rintro s rfl
  exact Ends.bind (h s rfl) fun a t ht => hf a (abs t) ht t rfl

theorem Seen.mono {m : EStateM ε σ α} {Q R : α → κ → Prop} {F : κ → Prop} (h : Seen abs m c Q E)
    (hQ : ∀ a d, Q a d → R a d) (hE : ∀ d, E d → F d) : Seen abs m c R F := by
  rintro s rfl
  exact Ends.mono (h s rfl) (fun a t ht => hQ a (abs t) ht) fun _ t ht => hE (abs t) ht

theorem Seen.get_bind {f : σ → EStateM ε σ β} {Q : β → κ → Prop}
    (hf : ∀ s, abs s = c → Seen abs (f s) c Q E) : Seen abs (MonadState.get >>= f) c Q E := by
  rintro s rfl
  exact Ends.bind (R := fun a t => a = s ∧ t = s) (Ends.get ⟨rfl, rfl⟩) (by
    rintro a t ⟨rfl, rfl⟩
    exact hf _ rfl _ rfl)

theorem Seen.set {t : σ} {Q : PUnit → κ → Prop} (h : Q ⟨⟩ (abs t)) :
    Seen abs (set t : EStateM ε σ PUnit) c Q E := fun _ _ => h

theorem Seen.modify {f : σ → σ} {d : κ} {Q : PUnit → κ → Prop} (hf : ∀ s, abs s = c → abs (f s) = d)
    (h : Q ⟨⟩ d) : Seen abs (modify f : EStateM ε σ PUnit) c Q E := by
  intro s hs
  refine Ends.modify ?_
  rw [hf s hs]
  exact h

theorem Seen.tryCatch {m : EStateM ε σ α} {f : ε → EStateM ε σ α} {Q : α → κ → Prop} {F : κ → Prop}
    (hm : Seen abs m c Q F) (hf : ∀ e d, F d → Seen abs (f e) d Q E) :
    Seen abs (tryCatch m f) c Q E := by
  rintro s rfl
  exact Ends.tryCatch (hm s rfl) fun e t ht => hf e (abs t) ht t rfl

theorem Inert.seen {m : EStateM ε σ α} (h : Inert abs m) (c : κ) :
    Seen abs m c (fun _ d => d = c) fun d => d = c := by
  rintro s rfl
  exact h s

theorem Seen.inert_bind {m : EStateM ε σ α} {f : α → EStateM ε σ β} {Q : β → κ → Prop}
    (h : Inert abs m) (hE : E c) (hf : ∀ a, Seen abs (f a) c Q E) : Seen abs (m >>= f) c Q E := by
  refine Seen.bind (R := fun _ d => d = c) ((h.seen c).mono (fun _ _ hd => hd) ?_) ?_
  · rintro d rfl
    exact hE
  · rintro a d rfl
    exact hf a

theorem Silent.inert {m : EStateM ε σ α} (h : Silent abs m) : Inert abs m := fun s =>
  Ends.mono (h s) (fun _ _ ht => ht) fun _ _ ht => ht.elim

theorem Silent.seen {m : EStateM ε σ α} (h : Silent abs m) (c : κ) :
    Seen abs m c (fun _ d => d = c) E := by
  rintro s rfl
  exact Ends.mono (h s) (fun _ _ ht => ht) fun _ _ ht => ht.elim

theorem Seen.silent_bind {m : EStateM ε σ α} {f : α → EStateM ε σ β} {Q : β → κ → Prop}
    (h : Silent abs m) (hf : ∀ a, Seen abs (f a) c Q E) : Seen abs (m >>= f) c Q E := by
  refine Seen.bind (h.seen c) ?_
  rintro a d rfl
  exact hf a

theorem Seen.when_bind {p : Prop} [Decidable p] {m : EStateM ε σ PUnit} {k : PUnit → EStateM ε σ β}
    {R : κ → Prop} {Q : β → κ → Prop} (h : p → Seen abs m c (fun _ d => R d) E) (h' : ¬p → R c)
    (hk : ∀ d, R d → Seen abs (k ⟨⟩) d Q E) : Seen abs (if p then m >>= k else k ⟨⟩) c Q E := by
  split
  · rename_i hp
    exact Seen.bind (h hp) fun _ d hd => hk d hd
  · rename_i hp
    exact hk c (h' hp)

theorem Silent.pure (a : α) : Silent abs (pure a : EStateM ε σ α) := fun _ => rfl

theorem Silent.modify {f : σ → σ} (h : ∀ s, abs (f s) = abs s) :
    Silent abs (modify f : EStateM ε σ PUnit) := fun s => h s

theorem Silent.bind {m : EStateM ε σ α} {f : α → EStateM ε σ β} (hm : Silent abs m)
    (hf : ∀ a, Silent abs (f a)) : Silent abs (m >>= f) := fun s =>
  Ends.bind (hm s) fun a t ht => Ends.mono (hf a t) (fun _ _ hu => hu.trans ht) fun _ _ hu => hu

theorem Inert.pure (a : α) : Inert abs (pure a : EStateM ε σ α) := fun _ => rfl

theorem Inert.throw (e : ε) : Inert abs (throw e : EStateM ε σ α) := fun _ => rfl

theorem Inert.get : Inert abs (get : EStateM ε σ σ) := fun _ => rfl

theorem Inert.modify {f : σ → σ} (h : ∀ s, abs (f s) = abs s) :
    Inert abs (modify f : EStateM ε σ PUnit) := fun s => h s

theorem Inert.bind {m : EStateM ε σ α} {f : α → EStateM ε σ β} (hm : Inert abs m)
    (hf : ∀ a, Inert abs (f a)) : Inert abs (m >>= f) := fun s =>
  Ends.bind (hm s) fun a t ht =>
    Ends.mono (hf a t) (fun _ _ hu => hu.trans ht) fun _ _ hu => hu.trans ht

theorem Inert.get_bind {f : σ → EStateM ε σ β}
    (hf : ∀ s, Ends (f s) s (fun _ t => abs t = abs s) (fun _ t => abs t = abs s)) :
    Inert abs (MonadState.get >>= f) := fun s =>
  Ends.bind (R := fun a t => a = s ∧ t = s) (Ends.get ⟨rfl, rfl⟩) (by
    rintro a t ⟨rfl, rfl⟩
    exact hf _)

end Seen

section Spares

variable {κ : Type} (abs : σ → κ) (E : ε → Prop)

/-- `m` leaves the abstraction alone and fails only with errors in `E`. -/
def Spares (m : EStateM ε σ α) : Prop :=
  ∀ s, Ends m s (fun _ t => abs t = abs s) fun e t => abs t = abs s ∧ E e

variable {abs E}

theorem Spares.pure (a : α) : Spares abs E (pure a : EStateM ε σ α) := fun _ => rfl

theorem Spares.throw {e : ε} (h : E e) : Spares abs E (throw e : EStateM ε σ α) := fun _ => ⟨rfl, h⟩

theorem Spares.get : Spares abs E (get : EStateM ε σ σ) := fun _ => rfl

theorem Spares.modify {f : σ → σ} (h : ∀ s, abs (f s) = abs s) :
    Spares abs E (modify f : EStateM ε σ PUnit) := fun s => h s

theorem Spares.after {m : EStateM ε σ α} (h : Spares abs E m) {s t : σ} (ht : abs t = abs s) :
    Ends m t (fun _ u => abs u = abs s) fun e u => abs u = abs s ∧ E e :=
  Ends.mono (h t) (fun _ _ hu => hu.trans ht) fun _ _ hu => ⟨hu.1.trans ht, hu.2⟩

theorem Spares.bind {m : EStateM ε σ α} {f : α → EStateM ε σ β} (hm : Spares abs E m)
    (hf : ∀ a, Spares abs E (f a)) : Spares abs E (m >>= f) := fun s =>
  Ends.bind (hm s) fun a _ ht => (hf a).after ht

theorem Spares.get_bind {f : σ → EStateM ε σ β}
    (hf : ∀ s, Ends (f s) s (fun _ t => abs t = abs s) fun e t => abs t = abs s ∧ E e) :
    Spares abs E (MonadState.get >>= f) := fun s => hf s

theorem Spares.set_bind {s t : σ} {f : PUnit → EStateM ε σ β} (h : abs t = abs s)
    (hf : Spares abs E (f ⟨⟩)) :
    Ends (MonadStateOf.set t >>= f) s (fun _ u => abs u = abs s) fun e u => abs u = abs s ∧ E e :=
  Ends.bind (R := fun _ u => abs u = abs s) h fun _ _ hu => hf.after hu

theorem Spares.tryCatch {m : EStateM ε σ α} {f : ε → EStateM ε σ α} (hm : Spares abs E m)
    (hf : ∀ e, E e → Spares abs E (f e)) : Spares abs E (tryCatch m f) := fun s =>
  Ends.tryCatch (hm s) fun e _ ht => (hf e ht.2).after ht.1

theorem Spares.when_bind {p : Prop} [Decidable p] {m : EStateM ε σ PUnit} {k : PUnit → EStateM ε σ β}
    (h : Spares abs E m) (hk : Spares abs E (k ⟨⟩)) : Spares abs E (if p then m >>= k else k ⟨⟩) := by
  split
  · exact h.bind fun _ => hk
  · exact hk

theorem Spares.weaken {F : ε → Prop} {m : EStateM ε σ α} (h : Spares abs E m) (hE : ∀ e, E e → F e) :
    Spares abs F m := fun s => Ends.mono (h s) (fun _ _ ht => ht) fun e _ ht => ⟨ht.1, hE e ht.2⟩

/-- What shows in a coarser abstraction shows in the finer one. -/
theorem Spares.coarsen {ι : Type} {view : σ → ι} {m : EStateM ε σ α} (h : Spares abs E m)
    (hview : ∀ s t, abs t = abs s → view t = view s) : Spares view E m := fun s =>
  Ends.mono (h s) (fun _ t ht => hview s t ht) fun _ t ht => ⟨hview s t ht.1, ht.2⟩

/-- The states look alike. -/
def Alike (abs : σ → κ) (s t : σ) : Prop := abs t = abs s

instance (abs : σ → κ) : IsPreorder σ (Alike abs) where
  refl _ := rfl
  trans _ _ _ h h' := h'.trans h

end Spares

section Along

variable {κ : Type} (abs : σ → κ) (step : κ → κ → Prop)

/-- The abstract states that steps of the smaller machine lead to. -/
abbrev Path : κ → κ → Prop := Relation.ReflTransGen step

/-- From `c` on, `m` takes steps of the smaller machine; what it returns satisfies `Q`. -/
abbrev Along (m : EStateM ε σ α) (c : κ) (Q : α → κ → Prop) : Prop :=
  Seen abs m c (fun a d => Path step c d ∧ Q a d) (Path step c)

/-- `m` goes on from `d` along a path that began at `c`. -/
abbrev Onward (c : κ) (m : EStateM ε σ α) (d : κ) (Q : α → κ → Prop) : Prop :=
  Seen abs m d (fun a e => Path step c e ∧ Q a e) (Path step c)

variable {abs step} {c : κ}

theorem Along.pure {a : α} {Q : α → κ → Prop} (h : Q a c) :
    Along abs step (pure a : EStateM ε σ α) c Q := Seen.pure ⟨.refl, h⟩

theorem Along.mono {m : EStateM ε σ α} {Q R : α → κ → Prop} (h : Along abs step m c Q)
    (hQ : ∀ a d, Q a d → R a d) : Along abs step m c R :=
  Seen.mono h (fun a d hd => ⟨hd.1, hQ a d hd.2⟩) fun _ hd => hd

theorem Along.bind_path {m : EStateM ε σ α} {f : α → EStateM ε σ β} {R : α → κ → Prop}
    {Q : β → κ → Prop} (h : Along abs step m c R)
    (hf : ∀ a d, Path step c d → R a d → Along abs step (f a) d Q) : Along abs step (m >>= f) c Q := by
  refine Seen.bind (R := fun a d => Path step c d ∧ R a d) h ?_
  rintro a d ⟨hp, ha⟩
  exact Seen.mono (hf a d hp ha) (fun b e he => ⟨hp.trans he.1, he.2⟩) fun _ he => hp.trans he

theorem Along.bind {m : EStateM ε σ α} {f : α → EStateM ε σ β} {R : α → κ → Prop}
    {Q : β → κ → Prop} (h : Along abs step m c R)
    (hf : ∀ a d, R a d → Along abs step (f a) d Q) : Along abs step (m >>= f) c Q :=
  Along.bind_path h fun a d _ => hf a d

theorem Along.onward {m : EStateM ε σ α} {d : κ} {Q : α → κ → Prop} (h : Along abs step m d Q)
    (hp : Path step c d) : Onward abs step c m d Q :=
  Seen.mono h (fun _ _ he => ⟨hp.trans he.1, he.2⟩) fun _ he => hp.trans he

theorem Onward.bind {m : EStateM ε σ α} {f : α → EStateM ε σ β} {d : κ} {R : α → κ → Prop}
    {Q : β → κ → Prop} (h : Onward abs step c m d R)
    (hf : ∀ a e, Path step c e → R a e → Onward abs step c (f a) e Q) :
    Onward abs step c (m >>= f) d Q :=
  Seen.bind h fun a e he => hf a e he.1 he.2

theorem Onward.mono {m : EStateM ε σ α} {d : κ} {Q R : α → κ → Prop} (h : Onward abs step c m d Q)
    (hQ : ∀ a e, Q a e → R a e) : Onward abs step c m d R :=
  Seen.mono h (fun a e he => ⟨he.1, hQ a e he.2⟩) fun _ he => he

theorem Along.modify {f : σ → σ} {d : κ} {Q : PUnit → κ → Prop}
    (hf : ∀ s, abs s = c → abs (f s) = d) (hp : Path step c d) (hq : Q ⟨⟩ d) :
    Along abs step (modify f : EStateM ε σ PUnit) c Q := Seen.modify hf ⟨hp, hq⟩

theorem Along.inert {m : EStateM ε σ α} (h : Inert abs m) : Along abs step m c fun _ d => d = c :=
  Seen.mono (h.seen c) (fun _ _ hd => ⟨hd ▸ .refl, hd⟩) fun _ hd => hd ▸ .refl

theorem Along.still {m : EStateM ε σ α} {Q : α → κ → Prop} (h : Inert abs m) (hq : ∀ a, Q a c) :
    Along abs step m c Q :=
  (Along.inert h).mono fun a _ hd => hd ▸ hq a

theorem Along.widen {step' : κ → κ → Prop} {m : EStateM ε σ α} {Q : α → κ → Prop}
    (hs : ∀ a b, step a b → step' a b) (h : Along abs step m c Q) : Along abs step' m c Q :=
  Seen.mono h (fun _ _ hd => ⟨Relation.ReflTransGen.mono hs _ _ hd.1, hd.2⟩) fun _ hd =>
    Relation.ReflTransGen.mono hs _ _ hd

/-- An invariant of the smaller machine holds wherever a path leads. -/
theorem Path.invariant {P : κ → Prop} (hs : ∀ a b, step a b → P a → P b) {a b : κ}
    (h : Path step a b) (ha : P a) : P b := by
  induction h with
  | refl => exact ha
  | tail _ hstep ih => exact hs _ _ hstep ih

end Along

section Looped

/-- A loop that goes round until `body` returns a value; `dry` is what happens when the rounds run out. -/
def looped (body : EStateM ε σ (Option α)) (dry : EStateM ε σ α) : ℕ → EStateM ε σ α
  | 0 => dry
  | rounds + 1 => do
    match ← body with
    | some a => pure a
    | none => looped body dry rounds

/-- Every round that is not the last one keeps `I` and lowers `μ`. -/
def Lowers (I : σ → Prop) (μ : σ → ℕ) (body : EStateM ε σ (Option α)) : Prop :=
  ∀ s t, I s → body s = .ok none t → I t ∧ μ t < μ s

/-- A loop that lowers a measure is done before as many rounds as that are spent. -/
theorem Lowers.looped_eq {I : σ → Prop} {μ : σ → ℕ} {body : EStateM ε σ (Option α)} (h : Lowers I μ body)
    (dry dry' : EStateM ε σ α) {n m : ℕ} {s : σ} (hs : I s) (hn : μ s < n) (hm : μ s < m) :
    looped body dry n s = looped body dry' m s := by
  induction n generalizing m s with
  | zero => omega
  | succ n ih =>
    cases m with
    | zero => omega
    | succ m =>
      unfold looped
      change EStateM.bind body _ s = EStateM.bind body _ s
      unfold EStateM.bind
      cases hb : body s with
      | error e t => rfl
      | ok next t =>
        cases next with
        | some a => rfl
        | none =>
          obtain ⟨ht, hlt⟩ := h s t hs hb
          exact ih ht (by omega) (by omega)

end Looped

section Ghost

variable {γ : Type}

/-- `m` beside a ghost that it does not see. -/
def lifted (m : EStateM ε σ α) : EStateM ε (σ × γ) α := fun x =>
  match m x.1 with
  | .ok a t => .ok a (t, x.2)
  | .error e t => .error e (t, x.2)

def record (f : σ → γ → γ) : EStateM ε (σ × γ) PUnit := modify fun x => (x.1, f x.1 x.2)

/-- An outcome without the ghost. -/
def bare : EStateM.Result ε (σ × γ) α → EStateM.Result ε σ α
  | .ok a x => .ok a x.1
  | .error e x => .error e x.1

/-- But for the ghost `m'` is `m`. -/
def Erases (m' : EStateM ε (σ × γ) α) (m : EStateM ε σ α) : Prop := ∀ x, bare (m' x) = m x.1

theorem Erases.lifted (m : EStateM ε σ α) : Erases (lifted m : EStateM ε (σ × γ) α) m := by
  intro x
  unfold EffectLogic.lifted
  cases m x.1 <;> rfl

theorem Erases.pure (a : α) : Erases (pure a : EStateM ε (σ × γ) α) (pure a) := fun _ => rfl

theorem Erases.bind {m' : EStateM ε (σ × γ) α} {m : EStateM ε σ α} {f' : α → EStateM ε (σ × γ) β}
    {f : α → EStateM ε σ β} (hm : Erases m' m) (hf : ∀ a, Erases (f' a) (f a)) : Erases (m' >>= f') (m >>= f) := by
  intro x
  have hx := hm x
  change bare (EStateM.bind m' f' x) = EStateM.bind m f x.1
  unfold EStateM.bind
  rw [← hx]
  cases m' x with
  | ok a y => exact hf a y
  | error e y => rfl

theorem Erases.record_bind {f : σ → γ → γ} {m' : EStateM ε (σ × γ) β} {m : EStateM ε σ β} (h : Erases m' m) :
    Erases (record f >>= fun _ => m') m := fun x => h (x.1, f x.1 x.2)

theorem Ends.lifted {m : EStateM ε σ α} {x : σ × γ} {Q : α → σ × γ → Prop} {E : ε → σ × γ → Prop}
    (h : Ends m x.1 (fun a t => Q a (t, x.2)) fun e t => E e (t, x.2)) : Ends (lifted m) x Q E := by
  unfold Ends EffectLogic.lifted at *
  cases hm : m x.1 with
  | ok a t =>
    rw [hm] at h
    exact h
  | error e t =>
    rw [hm] at h
    exact h

theorem Ends.record_bind {f : σ → γ → γ} {m : EStateM ε (σ × γ) β} {x : σ × γ} {Q : β → σ × γ → Prop}
    {E : ε → σ × γ → Prop} (h : Ends m (x.1, f x.1 x.2) Q E) : Ends (record f >>= fun _ => m) x Q E := h

end Ghost

end Yayatht.EffectLogic
