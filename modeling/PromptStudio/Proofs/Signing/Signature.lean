import Mathlib.Data.Set.Function
import PromptStudio.Proofs.Json.Bytes
import PromptStudio.Proofs.Signing.Header

/-!
# What a signature binds

The bytes that are signed spell the payload and its time, so they belong to no other payload and no other time. A keyed
digest that keeps the messages in use apart then makes a signature good for the payload and the time that were signed,
while that time is close to the clock, and for nothing else.
-/

namespace PromptStudio

/-! ### The bytes that are signed -/

theorem envelope_injective {p q : Json} {t u : Int} (h : envelope p t = envelope q u) : p = q ∧ t = u := by
  simp only [envelope, Json.ofFields, List.map_cons, List.map_nil, Json.object.injEq, List.cons.injEq, Prod.mk.injEq,
    Json.int.injEq, true_and, and_true] at h
  exact h

theorem isEncodable_envelope (payload : Json) (timestamp : Int) :
    (envelope payload timestamp).isEncodable = payload.isEncodable := by
  rw [envelope, Json.isEncodable_ofFields]
  exact Bool.and_true _

theorem hasShortIntegers_envelope (payload : Json) (timestamp : Int) :
    (envelope payload timestamp).hasShortIntegers = (payload.hasShortIntegers && Json.isShort timestamp) := by
  rw [envelope, Json.hasShortIntegers, Json.every_ofFields, List.all_cons, List.all_cons, List.all_nil, Bool.and_true]
  rfl

theorem depth_envelope (payload : Json) (timestamp : Int) : (envelope payload timestamp).depth = payload.depth + 1 := by
  simp [envelope, Json.ofFields, Json.depth, Json.depthOfMembers]

variable {payload : Json} {timestamp : Int} {maxDepth : Nat} {message : Bytes}

theorem signedBytes_eq_ok : signedBytes payload timestamp maxDepth = .ok message ↔
    payload.depth < maxDepth ∧ Utf8.encode? (Json.render .compact (envelope payload timestamp)) = some message := by
  rw [signedBytes, Json.toBytes_eq_ok, depth_envelope, Nat.succ_le_iff]

/-- A payload without lone surrogates can be signed, and the bound on its depth makes no difference to the bytes. -/
theorem exists_signedBytes (h : payload.isEncodable = true) (timestamp : Int) :
    ∃ message, ∀ maxDepth, payload.depth < maxDepth → signedBytes payload timestamp maxDepth = .ok message := by
  rw [← isEncodable_envelope payload timestamp] at h
  obtain ⟨message, hmessage⟩ := Json.exists_encode?_render .compact rfl h
  exact ⟨message, fun _ hdepth => signedBytes_eq_ok.mpr ⟨hdepth, hmessage⟩⟩

theorem isEncodable_of_signedBytes (h : signedBytes payload timestamp maxDepth = .ok message) :
    payload.isEncodable = true := by
  rw [← isEncodable_envelope payload timestamp]
  exact Json.isEncodable_of_toBytes rfl h

theorem signedBytes_of_too_deep (h : maxDepth ≤ payload.depth) (timestamp : Int) :
    signedBytes payload timestamp maxDepth = .error .tooDeep := by
  rw [signedBytes, Json.toBytes, depth_envelope, if_pos (Nat.lt_succ_of_le h)]

theorem signedBytes_of_unencodable (hdepth : payload.depth < maxDepth) (h : payload.isEncodable = false)
    (timestamp : Int) : signedBytes payload timestamp maxDepth = .error .unencodableText := by
  have hrender : Text.isEncodable (Json.render .compact (envelope payload timestamp)) = false := by
    rw [Json.isEncodable_render rfl, isEncodable_envelope, h]
  rw [← Utf8.isSome_encode?, Option.isSome_eq_false_iff, Option.isNone_iff_eq_none] at hrender
  rw [signedBytes, Json.toBytes, depth_envelope, if_neg (Nat.not_lt.mpr hdepth), hrender]

theorem signedBytes_injective {p q : Json} {t u : Int} {n m : Nat} (hp : p.hasShortIntegers = true)
    (hq : q.hasShortIntegers = true) (ht : Json.isShort t = true) (hu : Json.isShort u = true)
    (hpt : signedBytes p t n = .ok message) (hqu : signedBytes q u m = .ok message) : p = q ∧ t = u := by
  have htext := Utf8.encode?_injective (signedBytes_eq_ok.mp hpt).2 (signedBytes_eq_ok.mp hqu).2
  refine envelope_injective (Json.render_injective .compact rfl ?_ ?_ htext)
  · rw [hasShortIntegers_envelope, hp, ht]
    rfl
  · rw [hasShortIntegers_envelope, hq, hu]
    rfl

/-! ### Verdicts -/

namespace Signer

theorem defectOf_encode {digest expected : Bytes} (hlength : digest.length = expected.length) :
    defectOf (.string (Hex.encode digest)) expected = none ↔ digest = expected := by
  rw [defectOf, Hex.decode?_encode]
  simp only [hlength, ne_eq, not_true_eq_false, if_false]
  split
  · rename_i hother
    exact iff_of_false (Option.some_ne_none _) hother
  · rename_i hsame
    exact iff_of_true rfl (Decidable.not_not.mp hsame)

theorem sign_eq_ok {s : Signer} (h : signedBytes payload timestamp maxDepth = .ok message) :
    s.sign payload timestamp maxDepth = .ok ⟨Hex.encode (Hmac.digest s.secret message), timestamp, payload⟩ := by
  rw [sign, digest, h]
  rfl

theorem verify_eq_ok {s : Signer} {signature : Json} {now : Int}
    (h : signedBytes payload timestamp maxDepth = .ok message) :
    s.verify signature timestamp payload now maxDepth
      = .ok (if s.tolerance < (now - timestamp).natAbs then some .expired
          else defectOf signature (Hmac.digest s.secret message)) := by
  rw [verify, digest, h]
  split <;> rfl

/-- The signature of one message is good for another at a time that is close to the clock, if both have one digest. -/
theorem verify_encode {s : Signer} (h : signedBytes payload timestamp maxDepth = .ok message) (signed : Bytes)
    (now : Int) :
    ∃ verdict,
      s.verify (.string (Hex.encode (Hmac.digest s.secret signed))) timestamp payload now maxDepth = .ok verdict ∧
      (verdict = none ↔ (now - timestamp).natAbs ≤ s.tolerance ∧
        Hmac.digest s.secret signed = Hmac.digest s.secret message) := by
  refine ⟨_, verify_eq_ok h, ?_⟩
  have hlength : (Hmac.digest s.secret signed).length = (Hmac.digest s.secret message).length := by
    rw [Hmac.length_digest, Hmac.length_digest]
  split
  · rename_i hexpired
    exact iff_of_false (Option.some_ne_none _) fun hgood => absurd hgood.1 (Int.not_le.mpr hexpired)
  · rename_i hclose
    rw [defectOf_encode hlength]
    exact (and_iff_right (Int.not_lt.mp hclose)).symm

end Signer

/--
Two payloads with two times are signed as the same bytes only if they are the same payload with the same time. So, as
far as the keyed digest keeps the two messages apart, the signature of the one is good for the other exactly if nothing
was changed and the clock is close to the time. Signing and checking may each go to a depth of their own.
-/
theorem signature_is_good_iff_unchanged (s : Signer) {p q : Json} {t u : Int} (now : Int) {n m : Nat}
    (hp : p.isEncodable = true ∧ p.hasShortIntegers = true) (hq : q.isEncodable = true ∧ q.hasShortIntegers = true)
    (ht : Json.isShort t = true) (hu : Json.isShort u = true) (hn : p.depth < n) (hm : q.depth < m) :
    (signedBytes p t n = signedBytes q u m → p = q ∧ t = u) ∧
      (Set.InjOn (Hmac.digest s.secret) { b | signedBytes p t n = .ok b ∨ signedBytes q u m = .ok b } →
        ∃ signed verdict, s.sign p t n = .ok signed ∧
          s.verify (.string signed.signature) u q now m = .ok verdict ∧
          (verdict = none ↔ (now - u).natAbs ≤ s.tolerance ∧ q = p ∧ u = t)) := by
  obtain ⟨message, hmessage⟩ := exists_signedBytes hp.1 t
  obtain ⟨other, hother⟩ := exists_signedBytes hq.1 u
  replace hmessage := hmessage n hn
  replace hother := hother m hm
  have hunchanged : message = other → q = p ∧ u = t := by
    rintro rfl
    exact signedBytes_injective hq.2 hp.2 hu ht hother hmessage
  refine ⟨fun hsame => ?_, fun hapart => ?_⟩
  · rw [hmessage, hother] at hsame
    obtain ⟨hpayload, htime⟩ := hunchanged (Except.ok.inj hsame)
    exact ⟨hpayload.symm, htime.symm⟩
  · obtain ⟨verdict, hverdict, hgood⟩ := Signer.verify_encode hother message now
    refine ⟨_, verdict, Signer.sign_eq_ok hmessage, hverdict, ?_⟩
    rw [hgood, and_congr_right_iff]
    intro hclose
    constructor
    · intro hdigest
      exact hunchanged (hapart (.inl hmessage) (.inr hother) hdigest)
    · rintro ⟨rfl, rfl⟩
      have hsame : some message = some other :=
        (signedBytes_eq_ok.mp hmessage).2.symm.trans (signedBytes_eq_ok.mp hother).2
      rw [Option.some.inj hsame]

def Signer.sample : Signer :=
  ⟨Utf8.ofString "secret", defaultTolerance⟩

/-- A text that spells the end of an envelope with a time of its own is a payload like any other. -/
def imitation : Json :=
  .string "a\",\"timestamp\":5"

/-- The signature of a text at one time is no good for a text that imitates another time. -/
theorem imitated_time_is_no_good :
    ∃ signed verdict, Signer.sample.sign (.string "a") 5 = .ok signed ∧
      Signer.sample.verify (.string signed.signature) 6 imitation 6 = .ok verdict ∧ verdict ≠ none := by
  have hsigned : signedBytes (.string "a") 5 = .ok (Utf8.ofString "\x7b\"payload\":\"a\",\"timestamp\":5\x7d") := rfl
  have hother : signedBytes imitation 6
      = .ok (Utf8.ofString "\x7b\"payload\":\"a\\\",\\\"timestamp\\\":5\",\"timestamp\":6\x7d") := rfl
  have hdigests : Hmac.digest Signer.sample.secret (Utf8.ofString "\x7b\"payload\":\"a\",\"timestamp\":5\x7d")
      ≠ Hmac.digest Signer.sample.secret
        (Utf8.ofString "\x7b\"payload\":\"a\\\",\\\"timestamp\\\":5\",\"timestamp\":6\x7d") := by
    decide +kernel
  have hapart : Set.InjOn (Hmac.digest Signer.sample.secret)
      { m | signedBytes (.string "a") 5 = .ok m ∨ signedBytes imitation 6 = .ok m } := by
    rw [hsigned, hother]
    simp only [Except.ok.injEq]
    rintro m (rfl | rfl) m' (rfl | rfl) hdigest
    · rfl
    · exact absurd hdigest hdigests
    · exact absurd hdigest.symm hdigests
    · rfl
  obtain ⟨signed, verdict, hsign, hverify, hgood⟩ := (signature_is_good_iff_unchanged
    Signer.sample 6 ⟨rfl, rfl⟩ ⟨rfl, rfl⟩ rfl rfl (by decide) (by decide)).2 hapart
  exact ⟨signed, verdict, hsign, hverify, fun hnone => absurd (hgood.mp hnone).2.2 (by decide)⟩

end PromptStudio
