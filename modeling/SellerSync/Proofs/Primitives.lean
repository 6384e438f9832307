import Mathlib
import SellerSync.Service.Basic
/-! The service's primitive calls as weakest preconditions, in the form the verification condition
generator uses: each one says how its result and the state after it feed a postcondition. -/
open Std.Do

set_option mvcgen.warning false

namespace SellerSync.SyncM

/-- Service calls read a context, may fail, and change a service. -/
abbrev Shape : PostShape := .arg Context (.except SyncError (.arg Service .pure))

variable {α : Type}

@[spec] theorem freshId_spec (Q : PostCond Uuid Shape) :
    ⦃fun c σ => Q.1 (Service.idOf (σ.issued+1)) c { σ with issued := σ.issued+1 }⦄
      freshId ⦃Q⦄ := by
  mvcgen [freshId]

@[spec] theorem now_spec (Q : PostCond Instant Shape) :
    ⦃fun c σ => Q.1 (Service.readingOf c.origin (σ.readings+1)) c
      { σ with readings := σ.readings+1 }⦄ now ⦃Q⦄ := by
  mvcgen [now]

@[spec] theorem freshNonce_spec (Q : PostCond String Shape) :
    ⦃fun c σ => Q.1 (Service.nonceOf (σ.nonces+1)) c { σ with nonces := σ.nonces+1 }⦄
      freshNonce ⦃Q⦄ := by
  mvcgen [freshNonce]

@[spec] theorem transmit_spec (req : Except String HttpRequest)
    (Q : PostCond (Except String HttpResponse) Shape) :
    ⦃fun c σ => Q.1 (Client.exchange c.network σ.sent req) c (σ.offer req)⦄ transmit req ⦃Q⦄ := by
  mvcgen [transmit]

@[spec] theorem pause_spec (d : Duration) (Q : PostCond Unit Shape) :
    ⦃fun c σ => Q.1 () c { σ with outbound := σ.outbound ++ [.pause d] }⦄ pause d ⦃Q⦄ := by
  mvcgen [pause]

@[spec] theorem settings_spec (Q : PostCond Settings Shape) :
    ⦃fun c σ => Q.1 c.settings c σ⦄ settings ⦃Q⦄ := by
  mvcgen [settings]

@[spec] theorem store_spec (Q : PostCond Store Shape) :
    ⦃fun c σ => Q.1 σ.store c σ⦄ store ⦃Q⦄ := by
  mvcgen [store]

@[spec] theorem setStore_spec (st : Store) (Q : PostCond Unit Shape) :
    ⦃fun c σ => Q.1 () c { σ with store := st }⦄ setStore st ⦃Q⦄ := by
  mvcgen [setStore]

@[spec] theorem onStore_spec (f : Store → α × Store) (Q : PostCond α Shape) :
    ⦃fun c σ => Q.1 (f σ.store).1 c { σ with store := (f σ.store).2 }⦄ onStore f ⦃Q⦄ := by
  mvcgen [onStore, store, setStore]

@[spec] theorem fail_spec (e : SyncError) (Q : PostCond α Shape) :
    ⦃fun _ σ => Q.2.1 e σ⦄ (fail e : SyncM α) ⦃Q⦄ := by
  mvcgen [fail]

@[spec] theorem discard_spec (x : SyncM α) (Q : PostCond Unit Shape) :
    ⦃wp⟦x⟧ (fun _ => Q.1 (), Q.2)⦄ (discard x : SyncM Unit) ⦃Q⦄ := by
  simp only [Functor.discard, LawfulFunctor.map_const, Function.comp_apply]
  mvcgen

@[spec high] theorem tryCatch_spec (x : SyncM α) (h : SyncError → SyncM α) (Q : PostCond α Shape) :
    ⦃fun c => wp⟦x⟧ (fun a _ => Q.1 a c, fun e => wp⟦h e⟧ Q c, Q.2.2) c⦄
      (tryCatch x h : SyncM α) ⦃Q⦄ := by
  mvcgen

theorem run_of_triple {P : Service → Prop} {Q : α → Service → Prop}
    {E : SyncError → Service → Prop} {x : SyncM α}
    (h : ⦃fun _ σ => ⌜P σ⌝⦄ x ⦃post⟨fun a _ σ => ⌜Q a σ⌝, fun e σ => ⌜E e σ⌝⟩⦄) (c : Context)
    (σ : Service) (hσ : P σ) :
    match (x.run c).run.run σ with
    | (.ok a, σ') => Q a σ'
    | (.error e, σ') => E e σ' := by
  have hw := h c σ hσ
  rcases hx : x c σ with ⟨r, σ'⟩
  simp only [wp, StateT.run, ExceptT.run, ReaderT.run, PredTrans.apply_pushArg,
    PredTrans.apply_Functor_map, PredTrans.apply_pushExcept, hx, PredTrans.apply_Pure_pure] at hw ⊢
  cases r <;> exact hw

theorem post_of_triple {P Q : Service → Prop} {x : SyncM α}
    (h : ⦃fun _ σ => ⌜P σ⌝⦄ x ⦃post⟨fun _ _ σ => ⌜Q σ⌝, fun _ σ => ⌜Q σ⌝⟩⦄) (c : Context)
    {σ : Service} (hσ : P σ) : Q ((x.run c).run.run σ).2 := by
  have hr := run_of_triple h c σ hσ
  rcases hx : (x.run c).run.run σ with ⟨r, σ'⟩
  rw [hx] at hr
  cases r <;> exact hr

theorem keeps_of_triple {P : Service → Prop} {x : SyncM α}
    (h : ⦃fun _ σ => ⌜P σ⌝⦄ x ⦃post⟨fun _ _ σ => ⌜P σ⌝, fun _ σ => ⌜P σ⌝⟩⦄) (c : Context)
    {σ : Service} (hσ : P σ) : P ((x.run c).run.run σ).2 :=
  post_of_triple h c hσ

end SellerSync.SyncM
