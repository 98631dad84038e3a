/-!
# Dialogues

A *dialogue* is a computation that asks questions on its way to a result. Keeping the questions
apart from the answers separates what a formula does from where its inputs come from: the same
dialogue is evaluated under an assignment of values, carried on as far as the answers are known,
answered in a monad, or turned into a dialogue about something else.
-/

namespace PlugGraph

/-- A computation that asks questions of type `ι`, gets replies of type `ρ` and ends in `ω`. -/
inductive Dialogue (ι ρ ω : Type) where
  | done (result : ω)
  | ask (question : ι) (next : ρ → Dialogue ι ρ ω)

namespace Dialogue

variable {ι ρ ω υ : Type}

def bind : Dialogue ι ρ ω → (ω → Dialogue ι ρ υ) → Dialogue ι ρ υ
  | done result, next => next result
  | ask question reply, next => ask question fun r => bind (reply r) next

instance : Monad (Dialogue ι ρ) where
  pure := done
  bind := bind

def question (q : ι) : Dialogue ι ρ ρ := ask q done

/-- The result under a reply to every question. -/
def result (reply : ι → ρ) : Dialogue ι ρ ω → ω
  | done r => r
  | ask q next => result reply (next (reply q))

/-- How far a dialogue gets with the replies that are known. -/
structure Attempt (ι ω : Type) where
  /-- The questions asked, in order; the last one may be open. -/
  asked : List ι
  /-- The result, or the question that has no reply yet. -/
  ending : Except ι ω

/-- Carries a dialogue on up to the first question without a reply. -/
def run (reply? : ι → Option ρ) : Dialogue ι ρ ω → Attempt ι ω
  | done r => ⟨[], .ok r⟩
  | ask q next =>
    match reply? q with
    | some r =>
      let rest := run reply? (next r)
      ⟨q :: rest.asked, rest.ending⟩
    | none => ⟨[q], .error q⟩

/-- Replaces every question by a dialogue that finds the reply. -/
def substitute {ι' ρ' : Type} (inner : ι → Dialogue ι' ρ' ρ) : Dialogue ι ρ ω → Dialogue ι' ρ' ω
  | done r => done r
  | ask q next => bind (inner q) fun r => substitute inner (next r)

/-- Every question, whatever the replies before it, satisfies `p`. -/
def AsksOnly (p : ι → Prop) : Dialogue ι ρ ω → Prop
  | done _ => True
  | ask q next => p q ∧ ∀ r, AsksOnly p (next r)

/-- Every result, whatever the replies, satisfies `p`. -/
def EndsIn (p : ω → Prop) : Dialogue ι ρ ω → Prop
  | done r => p r
  | ask _ next => ∀ r, EndsIn p (next r)

/-- Answers the questions one after the other in a monad. -/
def answerM {m : Type → Type} [Monad m] (reply : ι → m ρ) : Dialogue ι ρ ω → m ω
  | done r => return r
  | ask q next => do answerM reply (next (← reply q))

@[simp] theorem answerM_done {m : Type → Type} [Monad m] (reply : ι → m ρ) (r : ω) :
    answerM reply (done r) = pure r := rfl

@[simp] theorem answerM_ask {m : Type → Type} [Monad m] (reply : ι → m ρ) (q : ι)
    (next : ρ → Dialogue ι ρ ω) :
    answerM reply (ask q next) = reply q >>= fun r => answerM reply (next r) := rfl

@[simp] theorem pure_eq (r : ω) : (pure r : Dialogue ι ρ ω) = done r := rfl

@[simp] theorem bind_eq (d : Dialogue ι ρ ω) (f : ω → Dialogue ι ρ υ) : d >>= f = bind d f := rfl

@[simp] theorem bind_done (r : ω) (f : ω → Dialogue ι ρ υ) : bind (done r) f = f r := rfl

@[simp] theorem bind_ask (q : ι) (next : ρ → Dialogue ι ρ ω) (f : ω → Dialogue ι ρ υ) :
    bind (ask q next) f = ask q fun r => bind (next r) f := rfl

theorem answerM_bind {m : Type → Type} [Monad m] [LawfulMonad m] (reply : ι → m ρ)
    (d : Dialogue ι ρ ω) (f : ω → Dialogue ι ρ υ) :
    answerM reply (bind d f) = answerM reply d >>= fun r => answerM reply (f r) := by
  induction d with
  | done r => simp only [bind_done, answerM_done, pure_bind]
  | ask q next ih =>
    simp only [bind_ask, answerM_ask, bind_assoc]
    exact congrArg (reply q >>= ·) (funext ih)

/-- To answer a dialogue with replaced questions is to answer the replacements. -/
theorem answerM_substitute {ι' ρ' : Type} {m : Type → Type} [Monad m] [LawfulMonad m]
    (reply : ι' → m ρ') (inner : ι → Dialogue ι' ρ' ρ) (d : Dialogue ι ρ ω) :
    answerM reply (substitute inner d) = answerM (fun q => answerM reply (inner q)) d := by
  induction d with
  | done r => rfl
  | ask q next ih =>
    simp only [substitute, answerM_bind, answerM_ask]
    exact congrArg (answerM reply (inner q) >>= ·) (funext ih)

theorem answerM_map {m : Type → Type} [Monad m] [LawfulMonad m] (reply : ι → m ρ) (f : ω → υ)
    (d : Dialogue ι ρ ω) : answerM reply (f <$> d) = f <$> answerM reply d :=
  (answerM_bind reply d fun r => done (f r)).trans (bind_pure_comp f _)

theorem bind_pure (d : Dialogue ι ρ ω) : bind d done = d := by
  induction d with
  | done r => rfl
  | ask q next ih => simp [ih]

theorem bind_assoc {τ : Type} (d : Dialogue ι ρ ω) (f : ω → Dialogue ι ρ υ)
    (g : υ → Dialogue ι ρ τ) : bind (bind d f) g = bind d fun r => bind (f r) g := by
  induction d with
  | done r => rfl
  | ask q next ih => simp [ih]

theorem map_map {τ : Type} (g : υ → τ) (f : ω → υ) (d : Dialogue ι ρ ω) :
    g <$> f <$> d = (fun r => g (f r)) <$> d :=
  bind_assoc d _ _

@[simp] theorem result_done (reply : ι → ρ) (r : ω) : result reply (done r) = r := rfl

@[simp] theorem result_bind (reply : ι → ρ) (d : Dialogue ι ρ ω) (f : ω → Dialogue ι ρ υ) :
    result reply (bind d f) = result reply (f (result reply d)) := by
  induction d with
  | done r => rfl
  | ask q next ih => exact ih (reply q)

/-- To answer every question is to find the result under these answers. -/
theorem answerM_some (reply : ι → ρ) (d : Dialogue ι ρ ω) :
    d.answerM (fun q => some (reply q)) = some (d.result reply) := by
  induction d with
  | done result => rfl
  | ask q next ih => exact ih (reply q)

namespace AsksOnly

variable {p p' : ι → Prop}

theorem mono {d : Dialogue ι ρ ω} (h : AsksOnly p d) (weaken : ∀ q, p q → p' q) :
    AsksOnly p' d := by
  induction d with
  | done => trivial
  | ask q next ih => exact ⟨weaken q h.1, fun r => ih r (h.2 r)⟩

theorem bind {d : Dialogue ι ρ ω} {f : ω → Dialogue ι ρ υ} (h : AsksOnly p d)
    (hf : ∀ r, AsksOnly p (f r)) : AsksOnly p (Dialogue.bind d f) := by
  induction d with
  | done r => exact hf r
  | ask q next ih => exact ⟨h.1, fun r => ih r (h.2 r)⟩

theorem map {d : Dialogue ι ρ ω} (h : AsksOnly p d) (f : ω → υ) : AsksOnly p (f <$> d) :=
  h.bind fun _ => trivial

theorem any (d : Dialogue ι ρ ω) : AsksOnly (fun _ => True) d := by
  induction d with
  | done => trivial
  | ask q next ih => exact ⟨trivial, ih⟩

theorem substitute {ι' ρ' : Type} {p : ι' → Prop} {p' : ι → Prop} {d : Dialogue ι ρ ω}
    {inner : ι → Dialogue ι' ρ' ρ} (h : AsksOnly p' d) (hi : ∀ q, p' q → AsksOnly p (inner q)) :
    AsksOnly p (Dialogue.substitute inner d) := by
  induction d with
  | done => trivial
  | ask q next ih => exact (hi q h.1).bind fun r => ih r (h.2 r)

/-- More replies to the questions that may be asked change nothing about a dialogue that has come
to its end. -/
theorem answerM_mono {reply reply' : ι → Option ρ} {d : Dialogue ι ρ ω} {result : ω}
    (asks : AsksOnly p d) (more : ∀ q, p q → ∀ r, reply q = some r → reply' q = some r)
    (h : d.answerM reply = some result) : d.answerM reply' = some result := by
  induction d with
  | done => exact h
  | ask q next ih =>
    obtain ⟨r, known, rest⟩ := Option.bind_eq_some_iff.mp h
    exact Option.bind_eq_some_iff.mpr ⟨r, more q asks.1 r known, ih r (asks.2 r) rest⟩

/-- A dialogue that comes to its end has the same result under every assignment of these replies. -/
theorem result_eq {reply? : ι → Option ρ} {reply : ι → ρ} {d : Dialogue ι ρ ω} {result : ω}
    (asks : AsksOnly p d) (same : ∀ q, p q → ∀ r, reply? q = some r → reply q = r)
    (h : d.answerM reply? = some result) : d.result reply = result := by
  have answered : d.answerM (fun q => some (reply q)) = some result :=
    asks.answerM_mono (fun q asked r known => congrArg some (same q asked r known)) h
  rw [answerM_some] at answered
  exact Option.some.inj answered

/-- Replies that agree as far as there are two lead to the same result. -/
theorem answerM_eq {reply reply' : ι → Option ρ} {d : Dialogue ι ρ ω} {result result' : ω}
    (asks : AsksOnly p d)
    (agree : ∀ q, p q → ∀ r r', reply q = some r → reply' q = some r' → r' = r)
    (h : d.answerM reply = some result) (h' : d.answerM reply' = some result') :
    result' = result := by
  -- Under both replies at once the dialogue comes to either result.
  have either : d.answerM (fun q => (reply q).or (reply' q)) = some result :=
    asks.answerM_mono (fun q _ r known => by rw [known, Option.some_or]) h
  have either' : d.answerM (fun q => (reply q).or (reply' q)) = some result' := by
    refine asks.answerM_mono (fun q asked r' known' => ?_) h'
    cases known : reply q with
    | none => exact known'
    | some r => rw [agree q asked r r' known known', Option.some_or]
  exact Option.some.inj (either'.symm.trans either)

end AsksOnly

theorem EndsIn.map {p : υ → Prop} {f : ω → υ} (h : ∀ r, p (f r)) (d : Dialogue ι ρ ω) :
    EndsIn p (f <$> d) := by
  induction d with
  | done r => exact h r
  | ask q next ih => exact ih

theorem EndsIn.any (d : Dialogue ι ρ ω) : EndsIn (fun _ => True) d := by
  induction d with
  | done => trivial
  | ask q next ih => exact ih

theorem EndsIn.bind {p : ω → Prop} {p' : υ → Prop} {d : Dialogue ι ρ ω}
    {f : ω → Dialogue ι ρ υ} (h : EndsIn p d) (hf : ∀ r, p r → EndsIn p' (f r)) :
    EndsIn p' (Dialogue.bind d f) := by
  induction d with
  | done r => exact hf r h
  | ask q next ih => exact fun r => ih r (h r)

/-- More replies change nothing about a dialogue that has come to its end. -/
theorem answerM_mono {reply reply' : ι → Option ρ}
    (more : ∀ {q r}, reply q = some r → reply' q = some r) {d : Dialogue ι ρ ω} {result : ω}
    (h : d.answerM reply = some result) : d.answerM reply' = some result :=
  (AsksOnly.any d).answerM_mono (fun _ _ _ => more) h

theorem EndsIn.of_answerM {p : ω → Prop} {reply : ι → Option ρ} {d : Dialogue ι ρ ω} {result : ω}
    (ends : d.EndsIn p) (h : d.answerM reply = some result) : p result := by
  induction d with
  | done =>
    cases h
    exact ends
  | ask q next ih =>
    obtain ⟨r, -, rest⟩ := Option.bind_eq_some_iff.mp h
    exact ih r (ends r) rest

end Dialogue

end PlugGraph
