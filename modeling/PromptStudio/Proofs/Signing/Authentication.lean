import PromptStudio.Api.Response
import PromptStudio.Proofs.Signing.Signature
import PromptStudio.Training.Webhook

/-!
# Who is believed

A delivery is genuine if its headers say a signature and a time, its body reads as a message, the time is close to the
clock, and the signature spells the digest of the message at that time. Exactly the genuine deliveries are believed.
All others should be refused in one way, as badly signed; but the message of a stranger is read and written down before
its digest is known, and not every value that comes up to there survives it. An integer with too many digits and too
deep a nesting are no misspelled JSON. What is read may still nest too deep to be written, since the message is written
inside of an envelope and further up the stack. And a lone surrogate has no bytes that a digest could be taken of. These
four end in a fault, and nothing else does, however deep the stack lets values nest.
-/

namespace PromptStudio

/-! ### Signatures -/

namespace Signer

variable {s : Signer} {sign : Text} {time : Int} {message : Json} {now : Int} {maxDepth : Nat}

/-- A signature is good for a message if its time is close to the clock and it spells the digest of both. -/
structure Accepts (s : Signer) (sign : Text) (time : Int) (message : Json) (now : Int) (maxDepth : Nat) : Prop where
  timely : (now - time).natAbs ≤ s.tolerance
  digest : ∃ bytes, signedBytes message time maxDepth = .ok bytes ∧
    Hex.decode? sign = some (Hmac.digest s.secret bytes)

theorem defectOf_string_eq_none {expected : Bytes} :
    defectOf (.string sign) expected = none ↔ Hex.decode? sign = some expected := by
  rw [defectOf]
  cases Hex.decode? sign with
  | none => exact iff_of_false (Option.some_ne_none _) (Option.some_ne_none _).symm
  | some bytes =>
      simp only [ne_eq, Option.some.injEq]
      constructor
      · intro hnone
        split at hnone
        · cases hnone
        · split at hnone
          · cases hnone
          · rename_i hsame
            exact Decidable.not_not.mp hsame
      · rintro rfl
        simp only [not_true_eq_false, if_false]

theorem verify_of_expired (hexpired : s.tolerance < (now - time).natAbs) (signature : Json) :
    s.verify signature time message now maxDepth = .ok (some .expired) := by
  rw [verify, if_pos hexpired]

theorem verify_of_unwritten (htimely : (now - time).natAbs ≤ s.tolerance) {fault : Fault}
    (hbytes : signedBytes message time maxDepth = .error fault) (signature : Json) :
    s.verify signature time message now maxDepth = .error fault := by
  rw [verify, if_neg (Int.not_lt.mpr htimely), digest, hbytes]
  rfl

theorem exists_verify
    (hmessage : (now - time).natAbs ≤ s.tolerance → ∃ bytes, signedBytes message time maxDepth = .ok bytes)
    (sign : Text) :
    ∃ verdict, s.verify (.string sign) time message now maxDepth = .ok verdict ∧
      (verdict = none ↔ s.Accepts sign time message now maxDepth) := by
  by_cases htimely : (now - time).natAbs ≤ s.tolerance
  · obtain ⟨bytes, hbytes⟩ := hmessage htimely
    refine ⟨_, verify_eq_ok hbytes, ?_⟩
    rw [if_neg (Int.not_lt.mpr htimely), defectOf_string_eq_none]
    constructor
    · intro hdigest
      exact ⟨htimely, bytes, hbytes, hdigest⟩
    · rintro ⟨_, other, hother, hdigest⟩
      rw [hbytes] at hother
      rw [Except.ok.inj hother]
      exact hdigest
  · refine ⟨_, verify_of_expired (Int.not_le.mp htimely) _, ?_⟩
    exact iff_of_false (Option.some_ne_none _) fun haccepts => htimely haccepts.timely

end Signer

/-! ### Bodies -/

theorem Json.ofBytes_fault {bytes : Bytes} {maxDepth : Nat} {fault : Fault}
    (h : ofBytes bytes maxDepth = .error fault) :
    fault = .malformedJson ∨ fault = .undecodableBytes ∨ fault = .invalidValue ∨ fault = .tooDeep := by
  rw [ofBytes] at h
  split at h
  · rename_i text _
    cases hread : read (.lenient maxDepth) text with
    | ok v =>
        rw [hread] at h
        cases h
    | error e =>
        rw [hread] at h
        cases h
        cases e <;> simp [ReadError.fault]
  · cases h
    exact Or.inr (Or.inl rfl)

namespace Webhook

/-! ### Deliveries -/

/-- What the headers of a delivery say: a signature that is not empty, and a text that spells a time. -/
structure Stamp (signature timestamp : Option Text) (sign : Text) (time : Int) : Prop where
  signature : signature = some sign
  nonempty : sign ≠ []
  timestamp : ∃ cs, timestamp = some (cs.map .char) ∧ Integer.ofChars? cs = some time

/-- A delivery of a message by someone who knows the secret. -/
def Genuine (signer : Signer) (signature timestamp : Option Text) (body : Bytes) (now : Int) (nesting : Nesting)
    (message : Json) : Prop :=
  ∃ sign time, Stamp signature timestamp sign time ∧ Json.ofBytes body nesting.message = .ok message ∧
    signer.Accepts sign time message now nesting.checked

/-- A delivery that ends in a fault, although its headers say a signature and a time. -/
inductive Breaks (signer : Signer) (signature timestamp : Option Text) (body : Bytes) (now : Int) (nesting : Nesting) :
    Fault → Prop
  /-- The body is not read, but not because it is misspelled. -/
  | unread {sign : Text} {time : Int} {fault : Fault} (hstamp : Stamp signature timestamp sign time)
      (hbody : Json.ofBytes body nesting.message = .error fault) (hfault : fault = .invalidValue ∨ fault = .tooDeep) :
      Breaks signer signature timestamp body now nesting fault
  /-- The time is close to the clock, and the message nests too deep to be written inside of its envelope. -/
  | tooDeep {sign : Text} {time : Int} {message : Json} (hstamp : Stamp signature timestamp sign time)
      (hbody : Json.ofBytes body nesting.message = .ok message) (htimely : (now - time).natAbs ≤ signer.tolerance)
      (hdeep : nesting.checked ≤ message.depth) : Breaks signer signature timestamp body now nesting .tooDeep
  | unencodable {sign : Text} {time : Int} {message : Json} (hstamp : Stamp signature timestamp sign time)
      (hbody : Json.ofBytes body nesting.message = .ok message) (htimely : (now - time).natAbs ≤ signer.tolerance)
      (hdepth : message.depth < nesting.checked) (hmessage : message.isEncodable = false) :
      Breaks signer signature timestamp body now nesting .unencodableText

variable {signer : Signer} {signature timestamp : Option Text} {body : Bytes} {now : Int} {nesting : Nesting}

theorem Stamp.unique {sign sign' : Text} {time time' : Int} (h : Stamp signature timestamp sign time)
    (h' : Stamp signature timestamp sign' time') : sign = sign' ∧ time = time' := by
  obtain ⟨cs, hcs, htime⟩ := h.timestamp
  obtain ⟨cs', hcs', htime'⟩ := h'.timestamp
  have hsign : some sign = some sign' := h.signature.symm.trans h'.signature
  have htext : some (cs.map CodePoint.char) = some (cs'.map CodePoint.char) := hcs.symm.trans hcs'
  have hchars : cs = cs' := by
    have hread := congrArg Text.toChars? (Option.some.inj htext)
    rw [Text.toChars?_map_char, Text.toChars?_map_char] at hread
    exact Option.some.inj hread
  rw [hchars, htime'] at htime
  exact ⟨Option.some.inj hsign, (Option.some.inj htime).symm⟩

/-- Under headers that say a signature and a time, the body and then the verdict decide. -/
theorem authenticate_of_stamp {sign : Text} {time : Int} (hstamp : Stamp signature timestamp sign time) :
    authenticate signer signature timestamp body now nesting
      = match Json.ofBytes body nesting.message with
        | .error .malformedJson | .error .undecodableBytes => reject .webhookMalformed
        | .error fault => .error (.fault fault)
        | .ok message =>
          match signer.verify (.string sign) time message now nesting.checked with
          | .error fault => .error (.fault fault)
          | .ok (some defect) => reject (.signatureRejected defect)
          | .ok none => .ok message := by
  obtain ⟨hsignature, hsign, cs, htimestamp, htime⟩ := hstamp
  have hsigned : signature.filter (!·.isEmpty) = some sign := by
    rw [hsignature, Option.filter_some, List.isEmpty_eq_false_iff.mpr hsign]
    rfl
  -- An empty text spells no time, so neither header counts as missing.
  have hne : cs ≠ [] := by
    rintro rfl
    cases htime
  have htimed : timestamp.filter (!·.isEmpty) = some (cs.map .char) := by
    rw [htimestamp, Option.filter_some, List.isEmpty_eq_false_iff.mpr (by simpa using hne)]
    rfl
  have hread : (Text.toChars? (cs.map .char)).bind Integer.ofChars? = some time := by
    rw [Text.toChars?_map_char, Option.bind_some, htime]
  rw [authenticate.eq_def, hsigned, htimed]
  dsimp only
  split
  · rename_i hnone
    rw [hread] at hnone
    cases hnone
  · rename_i time' htime'
    cases hread.symm.trans htime'
    rfl

theorem authenticate_of_not_stamp (hstamp : ∀ sign time, ¬ Stamp signature timestamp sign time) :
    ∃ cause : Refusal, authenticate signer signature timestamp body now nesting = .error (.refused cause) ∧
      cause.code = .signatureInvalid := by
  rw [authenticate.eq_def]
  split
  · rename_i sign time hsigned htimed
    rw [Option.filter_eq_some_iff] at hsigned htimed
    split
    · exact ⟨_, rfl, rfl⟩
    · rename_i n hread
      exfalso
      rw [Option.bind_eq_some_iff] at hread
      obtain ⟨cs, hcs, hn⟩ := hread
      refine hstamp sign n ⟨hsigned.1, ?_, cs, ?_, hn⟩
      · simpa using hsigned.2
      · rw [htimed.1, Text.toChars?_eq_some.mp hcs]
  · exact ⟨_, rfl, rfl⟩

/-! ### How authentication ends -/

/-- How an attempt to authenticate a delivery ends: a genuine one is believed, one that is not is refused, and what can
be neither ends in a fault. -/
inductive Verdict (signer : Signer) (signature timestamp : Option Text) (body : Bytes) (now : Int) (nesting : Nesting) :
    Except Failure Json → Prop
  | believed {message : Json} (hgenuine : Genuine signer signature timestamp body now nesting message) :
      Verdict signer signature timestamp body now nesting (.ok message)
  | refused {cause : Refusal} (hcode : cause.code = .signatureInvalid)
      (hforeign : ∀ message, ¬ Genuine signer signature timestamp body now nesting message)
      (hwhole : ∀ fault, ¬ Breaks signer signature timestamp body now nesting fault) :
      Verdict signer signature timestamp body now nesting (.error (.refused cause))
  | broken {fault : Fault} (hbreaks : Breaks signer signature timestamp body now nesting fault) :
      Verdict signer signature timestamp body now nesting (.error (.fault fault))

theorem Stamp.of_breaks {fault : Fault} (h : Breaks signer signature timestamp body now nesting fault) :
    ∃ sign time, Stamp signature timestamp sign time := by
  cases h with
  | unread hstamp _ _ => exact ⟨_, _, hstamp⟩
  | tooDeep hstamp _ _ _ => exact ⟨_, _, hstamp⟩
  | unencodable hstamp _ _ _ _ => exact ⟨_, _, hstamp⟩

theorem Genuine.of_stamp {sign : Text} {time : Int} {message : Json} (hstamp : Stamp signature timestamp sign time)
    (h : Genuine signer signature timestamp body now nesting message) :
    Json.ofBytes body nesting.message = .ok message ∧ signer.Accepts sign time message now nesting.checked := by
  obtain ⟨sign', time', hstamp', hbody, haccepts⟩ := h
  obtain ⟨rfl, rfl⟩ := hstamp.unique hstamp'
  exact ⟨hbody, haccepts⟩

theorem Breaks.of_stamp {sign : Text} {time : Int} {fault : Fault} (hstamp : Stamp signature timestamp sign time)
    (h : Breaks signer signature timestamp body now nesting fault) :
    (Json.ofBytes body nesting.message = .error fault ∧ (fault = .invalidValue ∨ fault = .tooDeep)) ∨
      ∃ message, Json.ofBytes body nesting.message = .ok message ∧ (now - time).natAbs ≤ signer.tolerance ∧
        signedBytes message time nesting.checked = .error fault := by
  cases h with
  | unread _ hbody hfault => exact Or.inl ⟨hbody, hfault⟩
  | tooDeep hstamp' hbody htimely hdeep =>
      obtain ⟨rfl, rfl⟩ := hstamp.unique hstamp'
      exact Or.inr ⟨_, hbody, htimely, signedBytes_of_too_deep hdeep _⟩
  | unencodable hstamp' hbody htimely hdepth hmessage =>
      obtain ⟨rfl, rfl⟩ := hstamp.unique hstamp'
      exact Or.inr ⟨_, hbody, htimely, signedBytes_of_unencodable hdepth hmessage _⟩

/-- A message whose bytes cannot be made breaks, if its time is close to the clock. -/
theorem Breaks.of_unwritten {sign : Text} {time : Int} {message : Json} {fault : Fault}
    (hstamp : Stamp signature timestamp sign time) (hbody : Json.ofBytes body nesting.message = .ok message)
    (htimely : (now - time).natAbs ≤ signer.tolerance)
    (hbytes : signedBytes message time nesting.checked = .error fault) :
    Breaks signer signature timestamp body now nesting fault := by
  by_cases hdeep : nesting.checked ≤ message.depth
  · rw [signedBytes_of_too_deep hdeep] at hbytes
    cases hbytes
    exact .tooDeep hstamp hbody htimely hdeep
  · have hdepth := Nat.lt_of_not_le hdeep
    cases hmessage : message.isEncodable with
    | true =>
        obtain ⟨bytes, hwritten⟩ := exists_signedBytes hmessage time
        rw [hwritten _ hdepth] at hbytes
        cases hbytes
    | false =>
        rw [signedBytes_of_unencodable hdepth hmessage] at hbytes
        cases hbytes
        exact .unencodable hstamp hbody htimely hdepth hmessage

theorem Genuine.unique {message other : Json} (h : Genuine signer signature timestamp body now nesting message)
    (hother : Genuine signer signature timestamp body now nesting other) : message = other := by
  obtain ⟨_, _, _, hbody, _⟩ := h
  obtain ⟨_, _, _, hbody', _⟩ := hother
  rw [hbody] at hbody'
  exact Except.ok.inj hbody'

theorem Genuine.not_breaks {message : Json} (h : Genuine signer signature timestamp body now nesting message)
    {fault : Fault} (hbreaks : Breaks signer signature timestamp body now nesting fault) : False := by
  obtain ⟨sign, time, hstamp, hbody, haccepts⟩ := h
  rcases hbreaks.of_stamp hstamp with ⟨hunread, _⟩ | ⟨other, hread, _, hother⟩
  · rw [hbody] at hunread
    cases hunread
  · obtain ⟨bytes, hbytes, _⟩ := haccepts.digest
    rw [hbody] at hread
    rw [← Except.ok.inj hread, hbytes] at hother
    cases hother

theorem Breaks.unique {fault other : Fault} (h : Breaks signer signature timestamp body now nesting fault)
    (hother : Breaks signer signature timestamp body now nesting other) : fault = other := by
  obtain ⟨sign, time, hstamp⟩ := Stamp.of_breaks h
  rcases h.of_stamp hstamp with ⟨hunread, _⟩ | ⟨message, hread, _, hbytes⟩
  · rcases hother.of_stamp hstamp with ⟨hunread', _⟩ | ⟨message', hread', _, _⟩
    · exact Except.error.inj (hunread.symm.trans hunread')
    · cases hunread.symm.trans hread'
  · rcases hother.of_stamp hstamp with ⟨hunread', _⟩ | ⟨message', hread', _, hbytes'⟩
    · cases hread.symm.trans hunread'
    · cases hread.symm.trans hread'
      exact Except.error.inj (hbytes.symm.trans hbytes')

theorem verdict_of_unread {sign : Text} {time : Int} {fault : Fault} (hstamp : Stamp signature timestamp sign time)
    (hbody : Json.ofBytes body nesting.message = .error fault) :
    Verdict signer signature timestamp body now nesting
      (authenticate signer signature timestamp body now nesting) := by
  have hforeign : ∀ message, ¬ Genuine signer signature timestamp body now nesting message := by
    intro message hgenuine
    rw [(hgenuine.of_stamp hstamp).1] at hbody
    cases hbody
  have hwhole (hspelling : ¬ (fault = .invalidValue ∨ fault = .tooDeep)) (other : Fault) :
      ¬ Breaks signer signature timestamp body now nesting other := by
    intro hbreaks
    rcases hbreaks.of_stamp hstamp with ⟨hother, hfault⟩ | ⟨message, hread, _⟩
    · rw [hbody] at hother
      exact hspelling (Except.error.inj hother ▸ hfault)
    · rw [hbody] at hread
      cases hread
  rw [authenticate_of_stamp hstamp, hbody]
  rcases Json.ofBytes_fault hbody with rfl | rfl | rfl | rfl
  · exact .refused rfl hforeign (hwhole (by decide))
  · exact .refused rfl hforeign (hwhole (by decide))
  · exact .broken (.unread hstamp hbody (Or.inl rfl))
  · exact .broken (.unread hstamp hbody (Or.inr rfl))

/-- A message whose bytes can be made, or whose time is not even close to the clock, gets the verdict of the signer. -/
theorem verdict_of_read {sign : Text} {time : Int} {message : Json} (hstamp : Stamp signature timestamp sign time)
    (hbody : Json.ofBytes body nesting.message = .ok message)
    (hmessage : (now - time).natAbs ≤ signer.tolerance → ∃ bytes, signedBytes message time nesting.checked = .ok bytes) :
    Verdict signer signature timestamp body now nesting
      (authenticate signer signature timestamp body now nesting) := by
  obtain ⟨verdict, hverdict, hgood⟩ := Signer.exists_verify hmessage sign
  rw [authenticate_of_stamp hstamp, hbody]
  simp only [hverdict]
  cases verdict with
  | none => exact .believed ⟨sign, time, hstamp, hbody, hgood.mp rfl⟩
  | some defect =>
      refine .refused rfl ?_ ?_
      · intro other hgenuine
        obtain ⟨hread, haccepts⟩ := hgenuine.of_stamp hstamp
        rw [hbody] at hread
        rw [← Except.ok.inj hread] at haccepts
        exact Option.some_ne_none _ (hgood.mpr haccepts)
      · intro fault hbreaks
        rcases hbreaks.of_stamp hstamp with ⟨hunread, _⟩ | ⟨other, hread, htimely, hother⟩
        · rw [hbody] at hunread
          cases hunread
        · obtain ⟨bytes, hbytes⟩ := hmessage htimely
          rw [hbody] at hread
          rw [← Except.ok.inj hread, hbytes] at hother
          cases hother

theorem verdict_authenticate (signer : Signer) (signature timestamp : Option Text) (body : Bytes) (now : Int)
    (nesting : Nesting) :
    Verdict signer signature timestamp body now nesting
      (authenticate signer signature timestamp body now nesting) := by
  by_cases hstamped : ∃ sign time, Stamp signature timestamp sign time
  · obtain ⟨sign, time, hstamp⟩ := hstamped
    cases hbody : Json.ofBytes body nesting.message with
    | error fault => exact verdict_of_unread hstamp hbody
    | ok message =>
        cases hbytes : signedBytes message time nesting.checked with
        | ok bytes => exact verdict_of_read hstamp hbody fun _ => ⟨bytes, hbytes⟩
        | error fault =>
            by_cases htimely : (now - time).natAbs ≤ signer.tolerance
            · rw [authenticate_of_stamp hstamp, hbody]
              simp only [Signer.verify_of_unwritten htimely hbytes]
              exact .broken (.of_unwritten hstamp hbody htimely hbytes)
            · exact verdict_of_read hstamp hbody fun hclose => absurd hclose htimely
  · obtain ⟨cause, hrefused, hcode⟩ := authenticate_of_not_stamp fun sign time hstamp => hstamped ⟨sign, time, hstamp⟩
    rw [hrefused]
    refine .refused hcode ?_ ?_
    · rintro message ⟨sign, time, hstamp, _⟩
      exact hstamped ⟨sign, time, hstamp⟩
    · exact fun fault hbreaks => hstamped (Stamp.of_breaks hbreaks)

theorem authenticate_eq_ok_iff {message : Json} :
    authenticate signer signature timestamp body now nesting = .ok message
      ↔ Genuine signer signature timestamp body now nesting message := by
  have hverdict := verdict_authenticate signer signature timestamp body now nesting
  generalize authenticate signer signature timestamp body now nesting = outcome at hverdict
  cases hverdict with
  | believed hgenuine =>
      rw [Except.ok.injEq]
      exact ⟨fun hsame => hsame ▸ hgenuine, fun hother => hgenuine.unique hother⟩
  | refused _ hforeign _ => exact iff_of_false nofun (hforeign message)
  | broken hbreaks => exact iff_of_false nofun fun hgenuine => hgenuine.not_breaks hbreaks

theorem authenticate_cases (signer : Signer) (signature timestamp : Option Text) (body : Bytes) (now : Int)
    (nesting : Nesting) :
    (∃ message, authenticate signer signature timestamp body now nesting = .ok message) ∨
      (∃ fault, authenticate signer signature timestamp body now nesting = .error (.fault fault)) ∨
      ∃ cause : Refusal, authenticate signer signature timestamp body now nesting = .error (.refused cause) ∧
        cause.code = .signatureInvalid := by
  have hverdict := verdict_authenticate signer signature timestamp body now nesting
  generalize authenticate signer signature timestamp body now nesting = outcome at hverdict
  cases hverdict with
  | believed _ => exact Or.inl ⟨_, rfl⟩
  | broken _ => exact Or.inr (Or.inl ⟨_, rfl⟩)
  | refused hcode _ _ => exact Or.inr (Or.inr ⟨_, rfl, hcode⟩)

end Webhook

/-- An empty list is read where one level may be open, and not written into an envelope there. -/
example : Webhook.authenticate .sample (some "00") (some "5") (Utf8.ofString "[]") 5 ⟨1, 1, 1, 1, 1⟩
    = .error (.fault .tooDeep) := by
  rfl

end PromptStudio
