import Mathlib.Tactic.Common

/-! A program performs atomic operations one after the other and computes with their answers. What
an operation does to the shared state is no part of the program.

Everything a proof needs to know about the text of a program is said by `Prog.Obeys`: a monitor
folds the operations performed so far, and their answers, into a phase, and every operation the
program can still perform has to be one its phase permits. -/

namespace Concurrency

variable {Op α β γ : Type} {Resp : Op → Type}

/-- A program has returned, or performs one operation and continues with its answer. -/
inductive Prog (Resp : Op → Type) (α : Type) : Type where
  | ret (a : α)
  | op (o : Op) (next : Resp o → Prog Resp α)

namespace Prog

def bind : Prog Resp α → (α → Prog Resp β) → Prog Resp β
  | ret a, f => f a
  | op o next, f => op o fun answer => (next answer).bind f

instance : Monad (Prog Resp) where
  pure := ret
  bind := bind

/-- A program over one set of operations as a program over a larger set. -/
def lift {Op' : Type} {Resp' : Op' → Type} (embed : Op → Op')
    (answer : (o : Op) → Resp' (embed o) → Resp o) : Prog Resp α → Prog Resp' α
  | ret a => ret a
  | op o next => op (embed o) fun a => (next (answer o a)).lift embed answer

/-- A program whose operations are programs over finer ones. -/
def expand {Op' : Type} {Resp' : Op' → Type} (impl : (o : Op) → Prog Resp' (Resp o)) :
    Prog Resp α → Prog Resp' α
  | ret a => ret a
  | op o next => (impl o).bind fun answer => (next answer).expand impl

/-- Performs a program for every element of a list. -/
def each (f : β → Prog Resp Unit) : List β → Prog Resp Unit
  | [] => ret ()
  | b :: rest => (f b).bind fun _ => each f rest

def perform (o : Op) : Prog Resp (Resp o) := op o ret

def returned : Prog Resp α → Bool
  | ret _ => true
  | op _ _ => false

@[simp] theorem perform_bind (o : Op) (f : Resp o → Prog Resp β) :
    (perform o >>= f) = op o f := rfl

theorem lift_bind {Op' : Type} {Resp' : Op' → Type} {embed : Op → Op'}
    {answer : (o : Op) → Resp' (embed o) → Resp o} (program : Prog Resp α) (f : α → Prog Resp β) :
    (program >>= f).lift embed answer
      = (program.lift embed answer >>= fun a => (f a).lift embed answer) := by
  induction program with
  | ret a => rfl
  | op o next ih => exact congrArg _ (funext fun a => ih (answer o a))

variable {program : Prog Resp α} {f : α → Prog Resp β} {permitted : Op → Prop}

section

variable {permitted' : Op → Prop} {post : α → Prop} {post' : β → Prop}

/-- Whatever the answers are, the program performs permitted operations only, and the value it
returns satisfies `post`. -/
def Spec (permitted : Op → Prop) (post : α → Prop) : Prog Resp α → Prop
  | ret a => post a
  | op o next => permitted o ∧ ∀ answer, (next answer).Spec permitted post

theorem Spec.bind (h : program.Spec permitted post)
    (hf : ∀ a, post a → (f a).Spec permitted post') : (program >>= f).Spec permitted post' := by
  induction program with
  | ret a => exact hf a h
  | op o next ih => exact ⟨h.1, fun answer => ih answer (h.2 answer)⟩

theorem Spec.mono {post' : α → Prop} (h : program.Spec permitted post)
    (hle : ∀ o, permitted o → permitted' o) (hpost : ∀ a, post a → post' a) :
    program.Spec permitted' post' := by
  induction program with
  | ret a => exact hpost a h
  | op o next ih => exact ⟨hle o h.1, fun answer => ih answer (h.2 answer)⟩

/-- Whatever the answers are, the program performs permitted operations only. -/
abbrev Within (permitted : Op → Prop) (program : Prog Resp α) : Prop :=
  program.Spec permitted fun _ => True

theorem Within.pure {a : α} : (Pure.pure a : Prog Resp α).Within permitted := trivial

theorem Within.perform {o : Op} (h : permitted o) :
    (Prog.perform o : Prog Resp (Resp o)).Within permitted := ⟨h, fun _ => trivial⟩

theorem Within.bind (h : program.Within permitted) (hf : ∀ a, (f a).Within permitted) :
    (program >>= f).Within permitted :=
  Spec.bind h fun a _ => hf a

theorem Within.map {f : α → β} (h : program.Within permitted) :
    (program >>= fun a => (Pure.pure (f a) : Prog Resp β)).Within permitted :=
  h.bind fun _ => .pure

/-- A first part about whose value nothing is known. -/
theorem Within.bind_spec (h : program.Within permitted) (hf : ∀ a, (f a).Spec permitted post') :
    (program >>= f).Spec permitted post' :=
  .bind h fun a _ => hf a

theorem Within.each {f : β → Prog Resp Unit} (h : ∀ b, (f b).Within permitted) (items : List β) :
    (Prog.each f items).Within permitted := by
  induction items with
  | nil => trivial
  | cons b rest ih => exact .bind (h b) fun _ => ih

theorem Within.lift {Op' : Type} {Resp' : Op' → Type} {embed : Op → Op'}
    {answer : (o : Op) → Resp' (embed o) → Resp o} {permitted : Op' → Prop}
    (h : program.Within fun o => permitted (embed o)) :
    (program.lift embed answer).Within permitted := by
  induction program with
  | ret a => trivial
  | op o next ih => exact ⟨h.1, fun a => ih _ (h.2 _)⟩

theorem Within.mono (h : program.Within permitted) (hle : ∀ o, permitted o → permitted' o) :
    program.Within permitted' :=
  Spec.mono h hle fun _ => id

end

section

variable {Φ : Type} (next : Φ → (o : Op) → Resp o → Φ) (may : Φ → Op → Prop)

/-- Whatever the answers are, each operation is one that the phase reached permits, and the program
returns only in a phase and with a value that satisfy `post`. -/
def Obeys (post : Φ → α → Prop) : Prog Resp α → Φ → Prop
  | ret a, φ => post φ a
  | op o rest, φ => may φ o ∧ ∀ answer, (rest answer).Obeys post (next φ o answer)

variable {next may} {post : Φ → α → Prop} {inside : Φ → Prop} {φ : Φ}

@[simp] theorem obeys_ret {a : α} :
    (ret a : Prog Resp α).Obeys next may post φ ↔ post φ a := Iff.rfl

theorem Obeys.mono {post' : Φ → α → Prop} (h : program.Obeys next may post φ)
    (hpost : ∀ φ a, post φ a → post' φ a) : program.Obeys next may post' φ := by
  induction program generalizing φ with
  | ret a => exact hpost φ a h
  | op o rest ih => exact ⟨h.1, fun answer => ih answer (h.2 answer)⟩

/-- A sequence obeys when its first part does and establishes what the second part starts from. -/
theorem Obeys.bind {mid : Φ → α → Prop} {post : Φ → β → Prop} (h : program.Obeys next may mid φ)
    (hf : ∀ φ a, mid φ a → (f a).Obeys next may post φ) :
    (program >>= f).Obeys next may post φ := by
  induction program generalizing φ with
  | ret a => exact hf φ a h
  | op o rest ih => exact ⟨h.1, fun answer => ih answer (h.2 answer)⟩

/-- Operations that are permitted throughout a set of phases, and do not leave it. -/
theorem Spec.obeys {post : α → Prop} (h : program.Spec permitted post) (hφ : inside φ)
    (hstay : ∀ φ o, inside φ → permitted o → may φ o ∧ ∀ answer, inside (next φ o answer)) :
    program.Obeys next may (fun φ a => inside φ ∧ post a) φ := by
  induction program generalizing φ with
  | ret a => exact ⟨hφ, h⟩
  | op o rest ih =>
    obtain ⟨hmay, hnext⟩ := hstay φ o hφ h.1
    exact ⟨hmay, fun answer => ih answer (h.2 answer) (hnext answer)⟩

theorem Within.obeys (h : program.Within permitted) (hφ : inside φ)
    (hstay : ∀ φ o, inside φ → permitted o → may φ o ∧ ∀ answer, inside (next φ o answer)) :
    program.Obeys next may (fun φ _ => inside φ) φ :=
  (Spec.obeys h hφ hstay).mono fun _ _ => And.left

/-- What no phase permits is not performed. -/
theorem Obeys.within (h : program.Obeys next may post φ) (hmay : ∀ φ o, may φ o → permitted o) :
    program.Within permitted := by
  induction program generalizing φ with
  | ret a => trivial
  | op o rest ih => exact ⟨hmay φ o h.1, fun answer => ih answer (h.2 answer)⟩

end

end Prog

end Concurrency
