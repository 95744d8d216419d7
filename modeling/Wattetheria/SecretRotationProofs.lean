import Wattetheria.EventHandlerProofs
import Wattetheria.OutboxProofs

/-!
# Rotated secrets

A `subscribe` with another secret keeps the one before for ten minutes, and one that repeats
the secret hands on what is left of them.  `Renewed` are the calls for one callback, the latest
first, with whatever else is done to the store in between.
-/

namespace WattRotation

open WattRows WattWebhooks WattOutbox EventDatabase Option

/-- What `subscribe` does to the store. -/
def subscribeStore (cfg : Config) (url fingerprint secret : String) (expiresAt : Option Int)
    (now : Int) (db : EventDatabase) : Except String Unit × EventDatabase :=
  let db := db.cleanup now
  db.upsertSubscription (subscriptionRow cfg fingerprint url secret
    (rotationProof (db.getSubscription (subscriptionId cfg url)) secret now) expiresAt)

/-- The old secret that `delivery_tick` passes on when the clock shows `now`. -/
def oldSecret (sub : StoredSubscription) (now : Int) : Option String :=
  (sub.oldSecretExpiresAt.filter (now < ·)).bind fun _ => sub.oldCallbackSecret

variable (sign : String → Option String)

/-- The signature of `signed_headers`; `sign` answers `none` for a secret without a signer. -/
def signedHeaders (secret : String) (old : Option String) : Option String :=
  match old with
  | none => sign secret
  | some old => do some ((← sign secret) ++ " " ++ (← sign old))

/-- The accepted calls for a callback that is active from the first of them to the last. -/
inductive Renewed (cfg : Config) (url : String) : List (String × Int) → EventDatabase → Prop
  | start {db} (h : Inactive db (subscriptionId cfg url)) : Renewed cfg url [] db
  | subscribed {calls db} (fingerprint secret : String) (expiresAt : Option Int) (now : Int)
      (h : Renewed cfg url calls db)
      (htime : ∀ call ∈ calls.head?, call.2 ≤ now)
      (hstays : calls ≠ [] → ¬ Inactive (db.cleanup now) (subscriptionId cfg url))
      (hok : (subscribeStore cfg url fingerprint secret expiresAt now db).1 = .ok ()) :
      Renewed cfg url ((secret, now) :: calls)
        (subscribeStore cfg url fingerprint secret expiresAt now db).2
  | called {calls db} (call : StoreCall) (h : Renewed cfg url calls db)
      (hother : ∀ row, call = .upsertSubscription row → row.id ≠ subscriptionId cfg url) :
      Renewed cfg url calls (call.apply db).2

/-- The secret before the latest change, and the time of the change. -/
def lastChange : List (String × Int) → Option (String × Int)
  | [] => none
  | (secret, now) :: calls => calls.head?.bind fun call =>
      if call.1 ≠ secret then some (call.1, now) else lastChange calls

/-- The old secret that is still signed with. -/
def overlapping (calls : List (String × Int)) (now : Int) : Option String :=
  ((lastChange calls).filter (now < ·.2 + rotationSeconds)).map Prod.fst

variable {cfg : Config} {url secret : String} {now : Int} {db : EventDatabase}
  {calls : List (String × Int)} {sub : StoredSubscription}

/-- The subscription has the secrets the calls leave it, from the time of the latest on. -/
def Carries (calls : List (String × Int)) (sub : StoredSubscription) : Prop :=
  ∃ call ∈ calls.head?, sub.callbackSecret = call.1
    ∧ ∀ d, call.2 ≤ d → oldSecret sub d = overlapping calls d

/-- A call that repeats the secret leaves the old one what it has left. -/
lemma oldSecret_repeated {sub' : StoredSubscription} (hactive : sub.active = true) {d : Int}
    (hproof : rotationProof (some sub) sub.callbackSecret now
      = (sub'.oldCallbackSecret, sub'.oldSecretExpiresAt)) (hd : now ≤ d) :
    oldSecret sub' d = oldSecret sub d := by
  simp only [rotationProof, filter_some, hactive, if_true, ne_eq, not_true, if_false]
    at hproof
  unfold oldSecret
  split at hproof
  · obtain ⟨hsecret, htime⟩ := Prod.mk.inj hproof
    rw [hsecret, htime]
  · next hexpired =>
    obtain ⟨-, htime⟩ := Prod.mk.inj hproof
    cases hold : sub.oldSecretExpiresAt with
    | none => simp [← htime]
    | some time =>
      have hle : time ≤ now := by simpa [hold] using hexpired
      simp [← htime, filter_some, not_lt.mpr (hle.trans hd)]

/-- **ONE CALL** leaves the subscription the secrets of the calls so far. -/
lemma carries_subscribed {fingerprint : String} {expiresAt : Option Int}
    (hbefore : ∀ sub ∈ db.getSubscription (subscriptionId cfg url), sub.active = true →
      Carries calls sub) (hstays : calls ≠ [] → ¬ Inactive db (subscriptionId cfg url))
    (htime : ∀ call ∈ calls.head?, call.2 ≤ now) :
    Carries ((secret, now) :: calls) (subscriptionRow cfg fingerprint url secret
      (rotationProof (db.getSubscription (subscriptionId cfg url)) secret now) expiresAt) := by
  refine ⟨(secret, now), rfl, rfl, fun d hd => ?_⟩
  cases hprevious : (db.getSubscription (subscriptionId cfg url)).filter (·.active) with
  | none =>
    have hnil : calls = [] := by
      by_contra hne
      refine hstays hne fun sub hsub hid => ?_
      simpa [getSubscription_eq_some.mpr ⟨hsub, hid⟩] using hprevious
    rw [hnil]
    simp [rotationProof, hprevious, oldSecret, subscriptionRow, overlapping, lastChange]
  | some previous =>
    obtain ⟨hget, hactive⟩ := filter_eq_some_iff.mp hprevious
    obtain ⟨last, hlast, hcurrent, hsame⟩ := hbefore previous hget hactive
    rw [hget, overlapping, lastChange, mem_def.mp hlast, bind_some, ← hcurrent]
    by_cases hsecret : previous.callbackSecret = secret
    · subst hsecret
      rw [if_neg (not_not_intro rfl), oldSecret_repeated hactive rfl hd,
        hsame d ((htime last hlast).trans hd), overlapping]
    · rw [if_pos hsecret]
      simp only [rotationProof, filter_some, hactive, if_true, if_pos hsecret, oldSecret,
        subscriptionRow]
      split <;> rfl

/-- **A RUN** leaves the subscription the secrets of its calls. -/
lemma carries_of_renewed (h : Renewed cfg url calls db) (hsub : sub ∈ db.subscriptions.rows)
    (hid : sub.id = subscriptionId cfg url) (hactive : sub.active = true) : Carries calls sub := by
  induction h generalizing sub with
  | start hnone => exact absurd (hactive.symm.trans (hnone sub hsub hid)) (by decide)
  | called call h hother ih =>
    rcases subscription_of_mem _ call hsub with ⟨old, hold, rfl | rfl⟩ | ⟨hcall, -⟩
    · exact ih hold hid hactive
    · cases hactive
    · exact absurd hid (hother sub hcall)
  | subscribed fingerprint secret expiresAt now h htime hstays hok ih =>
    rw [eq_of_mem_upsertSubscription hid hok hsub]
    refine carries_subscribed (fun sub hget hactive => ?_) hstays htime
    obtain ⟨hsub, hid⟩ := getSubscription_eq_some.mp hget
    exact ih (Table.mem_delete.mp hsub).1 hid hactive

/-- **SECRETS IN ROTATION**: a delivery is signed with the secret of the latest call, and also with
the one before its latest change, exactly when that was less than ten minutes before the
clock is read after the claim. -/
theorem signed_with_rotated {d d' leaseUntil : Int}
    {ownerId fingerprint token : String} {kind : Option String} {item : StoredOutbox}
    (h : Renewed cfg url ((secret, now) :: calls) db) (hnow : now ≤ d) (hd : d ≤ d')
    (hclaim : (db.claimOutbox ownerId fingerprint d leaseUntil token kind).1 = some item)
    (hitem : item.subscription.id = subscriptionId cfg url) :
    ∃ old, signedHeaders sign item.subscription.callbackSecret (oldSecret item.subscription d')
        = signedHeaders sign secret old ∧ ∀ previous, old = some previous ↔ ∃ time,
          lastChange ((secret, now) :: calls) = some (previous, time)
            ∧ d' < time + rotationSeconds := by
  rcases claimOutbox_cases db ownerId fingerprint d leaseUntil token kind with
    hnone | ⟨row, claimed, hclaims, heq⟩
  · rw [hnone] at hclaim
    cases hclaim
  rw [heq] at hclaim
  cases hclaim
  obtain ⟨hsub, -⟩ := getSubscription_eq_some.mp hclaims.subscription
  obtain ⟨_, ⟨⟩, hsecret, hold⟩ := carries_of_renewed h hsub hitem
    (subscriptionOpen_iff.mp hclaims.subscriptionOpen).1
  refine ⟨_, by rw [hsecret, hold d' (hnow.trans hd)], fun previous => ?_⟩
  simp [overlapping, filter_eq_some_iff]

def hook : String := "https://callback.example/hook"

/-- The secret is changed at 100, and an event is published. -/
def rotated : EventDatabase :=
  ((subscribeStore toyConfig hook "token" "whsec_new" none 100
      (subscribeStore toyConfig hook "token" "whsec_old" none 0 .empty).2).2.publish
    sampleOccurrence [] "dm" (fun _ => "row_1") 200).2

lemma renewed_rotated : Renewed toyConfig hook [("whsec_new", 100), ("whsec_old", 0)] rotated := by
  have hempty : Renewed toyConfig hook [] .empty := .start fun _ hsub => nomatch hsub
  have hfirst := hempty.subscribed "token" "whsec_old" none 0 (by simp) (by simp)
    (by decide +kernel)
  have hsecond := hfirst.subscribed "token" "whsec_new" none 100 (by simp)
    (fun _ => by unfold Inactive; decide +kernel) (by decide +kernel)
  exact hsecond.called (.publish sampleOccurrence [] "dm" (fun _ => "row_1") 200)
    fun _ h => nomatch h

theorem signed_with_both : ∃ item old,
    (rotated.claimOutbox "owner" "token" 200 230 "" none).1 = some item
      ∧ signedHeaders some item.subscription.callbackSecret (oldSecret item.subscription 201)
        = signedHeaders some "whsec_new" old ∧ old = some "whsec_old" := by
  obtain ⟨item, hitem, hid⟩ := map_eq_some_iff.mp (by decide +kernel :
    (rotated.claimOutbox "owner" "token" 200 230 "" none).1.map (·.subscription.id)
      = some (subscriptionId toyConfig hook))
  obtain ⟨old, hsigned, hold⟩ := signed_with_rotated some renewed_rotated (by decide)
    (by decide : (200 : Int) ≤ 201) hitem hid
  exact ⟨item, old, hitem, hsigned, (hold "whsec_old").mpr ⟨100, by decide, by decide⟩⟩

/-- The change is 599 seconds old at the claim, and 600 when the old secret is looked at. -/
theorem old_secret_expires_after_claim :
    Renewed toyConfig hook [("whsec_new", 100), ("whsec_old", 0)] rotated
      ∧ (rotated.claimOutbox "owner" "token" 699 729 "" none).1.map
          (fun item => oldSecret item.subscription 700) = some none :=
  ⟨renewed_rotated, by decide +kernel⟩

end WattRotation
