import KmxAio.Knx.DataSecure.Replay

/-!
# Counted refusals

A frame is refused where it is viewed, admitted to the codec, verified or compared
with the last sequence number of its sender, and each of these places counts what it
refuses, with three exceptions.
-/

namespace KmxAio.Knx.DataSecure

open Lib.Wire Cemi Secure

theorem count_ne (counters : Statistics) (counter : FailureCounter) :
    counters.count counter ≠ counters := by
  intro same
  cases counter with
  | authenticationFailures =>
    exact Nat.succ_ne_self _ (congrArg Statistics.authenticationFailures same)
  | replays => exact Nat.succ_ne_self _ (congrArg Statistics.replays same)
  | duplicates => exact Nat.succ_ne_self _ (congrArg Statistics.duplicates same)
  | missingKeys => exact Nat.succ_ne_self _ (congrArg Statistics.missingKeys same)
  | unencryptedRefused => exact Nat.succ_ne_self _ (congrArg Statistics.unencryptedRefused same)
  | refusedServices => exact Nat.succ_ne_self _ (congrArg Statistics.refusedServices same)

/-- The crypto library does not decrypt an APDU, or computes no MAC of what it decrypted. -/
def LibraryFails (backend : CryptoBackend) (key : SecretKey) (binding : FrameBinding)
    (secured : Octets) : Prop :=
  ∃ control, decodeSecurityControl (octetAt secured 0) = .ok control ∧
    ((∃ why, decryptApdu backend key binding control.algorithm secured = .error why) ∨
      ∃ received plain why,
        decryptApdu backend key binding control.algorithm secured = .ok (received, plain) ∧
        telegramMac backend key (octetAt secured 0) (readArray sequenceSize 1 secured) binding
          control.algorithm plain = .error why)

namespace Context

/-- What the context asks of a secured telegram before it opens it. -/
structure Admits (context : Context) (frame : FrameView) (secured : Octets) (key : SecretKey) :
    Prop where
  group : frame.group = true
  ordinary : ordinaryData secured = true
  keyed : context.configuration.keyFor frame.binding.destination = some key
  allowed :
    context.configuration.senderAllowed frame.binding.source frame.binding.destination = true

/-- A sequence number the table takes: any in a confirmation, otherwise one above the last of a
known sender. -/
def Takes (ctx : Context) (frame : FrameView) (seq : Nat) : Prop :=
  frame.code = .lDataCon ∨
    ∃ last ∈ lastValid ctx.configuration.senders frame.binding.source, last < seq

/-- An admitted telegram that no counter tells about: too short for its own fields, not answered by
the library, or taken and then too short to be carried on. -/
def Unobserved (ctx : Context) (backend : CryptoBackend) (frame : FrameView) (key : SecretKey)
    (secured : Octets) : Prop :=
  secured.length < securedApduOverhead ∨
    LibraryFails backend key frame.binding secured ∨
    (secured.length < securedApduOverhead + apciSize ∧
      (∃ plain, openApdu backend maxPlainApdu key frame.binding secured = .ok plain) ∧
      ctx.Takes frame (sequenceOf secured))

def Observed (ctx : Context) (call : Context × Expected Octets) : Prop :=
  ∀ why, call.2 = .error why → ∃ counter, call.1.counters = ctx.counters.count counter

variable {ctx : Context} {backend : CryptoBackend} {frame : FrameView} {key : SecretKey}
  {binding : FrameBinding} {cemi secured plain : Octets}

/-! ## Each stage -/

theorem admitSecured_admits (admits : ctx.Admits frame secured key) :
    ctx.admitSecured frame secured = (ctx, .ok key) := by
  unfold admitSecured
  rw [if_neg (by simp [admits.group, admits.ordinary]), admits.keyed, admits.allowed]

theorem acceptSequence_takes {seq : Nat} (taken : ctx.Takes frame seq) :
    (ctx.acceptSequence frame seq).2 = .ok () ∧
      (ctx.acceptSequence frame seq).1.counters = ctx.counters := by
  unfold acceptSequence
  split
  · exact ⟨rfl, rfl⟩
  rename_i indication
  obtain ⟨last, known, above⟩ := taken.resolve_left indication
  rw [known]
  dsimp only
  rw [if_neg (Nat.not_le.mpr above)]
  exact ⟨rfl, rfl⟩

theorem acceptSequence_refuses {seq : Nat} (refused : ¬ ctx.Takes frame seq) :
    ∃ counter why, ctx.acceptSequence frame seq =
      (ctx.withCounters (·.count counter), .error why) := by
  obtain ⟨indication, stale⟩ := not_or.mp refused
  unfold acceptSequence
  rw [if_neg indication]
  cases known : lastValid ctx.configuration.senders frame.binding.source with
  | none => exact ⟨.missingKeys, _, rfl⟩
  | some last =>
    dsimp only
    split
    · exact ⟨.replays, _, rfl⟩
    · rename_i above
      exact absurd ⟨last, known, Nat.lt_of_not_le above⟩ stale

/-! ## The codec -/

theorem ordinaryData_decodes (ordinary : ordinaryData secured = true) :
    ∃ control, decodeSecurityControl (octetAt secured 0) = .ok control := by
  unfold ordinaryData at ordinary
  split at ordinary
  · cases ordinary
  rename_i control decoded
  split at decoded
  · cases decoded
  · exact ⟨control, decoded⟩

theorem telegramMac_fails (backend : CryptoBackend) (key : SecretKey) (controlOctet : UInt8)
    (seq : SequenceInformation) (binding : FrameBinding) (protection : Algorithm) (plain : Octets) :
    Lib.Fallible.FailsOnlyWith CompositionFailure
      (telegramMac backend key controlOctet seq binding protection plain) := by
  cases protection with
  | authenticationOnly | authenticatedEncryption => exact cbcMac_fails _ _ _ _ _

theorem decryptApdu_fails (backend : CryptoBackend) (key : SecretKey) (binding : FrameBinding)
    (algorithm : Algorithm) (secured : Octets) :
    Lib.Fallible.FailsOnlyWith CompositionFailure
      (decryptApdu backend key binding algorithm secured) := by
  cases algorithm with
  | authenticationOnly => exact Lib.Fallible.failsOnlyWith_ok _ _
  | authenticatedEncryption => exact ctr_fails _ _ _ _ _

theorem decryptApdu_length {algorithm : Algorithm} {received : Octets}
    (long : securedApduOverhead ≤ secured.length)
    (decrypted : decryptApdu backend key binding algorithm secured = .ok (received, plain)) :
    plain.length = secured.length - securedApduOverhead := by
  have whole : ((secured.drop (1 + sequenceSize)).take
      (secured.length - securedApduOverhead)).length = secured.length - securedApduOverhead := by
    simp only [List.length_take, List.length_drop, securedApduOverhead, macSize] at long ⊢
    omega
  cases algorithm with
  | authenticationOnly =>
    cases decrypted
    exact whole
  | authenticatedEncryption =>
    exact (backend.ctr_length _ _ _ _ _ (ctr_ok decrypted)).2.trans whole

/-- An APDU with all its fields is opened or refused by its MAC, unless the library fails. -/
theorem openApdu_judges (backend : CryptoBackend) (key : SecretKey) (binding : FrameBinding)
    {control : SecurityControl} (long : securedApduOverhead ≤ secured.length)
    (carried : secured.length ≤ securedApduOverhead + maxPlainApdu)
    (decoded : decodeSecurityControl (octetAt secured 0) = .ok control) :
    (LibraryFails backend key binding secured ∧ ∃ why, CompositionFailure why ∧
        openApdu backend maxPlainApdu key binding secured = .error why) ∨
      ¬ LibraryFails backend key binding secured ∧
        (openApdu backend maxPlainApdu key binding secured = refuse .secureAuthenticationFailed ∨
          ∃ plain, openApdu backend maxPlainApdu key binding secured = .ok plain ∧
            plain.length = secured.length - securedApduOverhead) := by
  have fits : ¬ (secured.length - securedApduOverhead > maxPlainApdu ∨
      maxPlainApdu < secured.length - securedApduOverhead) := by omega
  unfold openApdu
  rw [if_neg (Nat.not_lt.mpr long), decoded]
  dsimp only
  rw [if_neg fits]
  cases decrypted : decryptApdu backend key binding control.algorithm secured with
  | error why =>
    exact .inl ⟨⟨control, decoded, .inl ⟨why, decrypted⟩⟩, why,
      decryptApdu_fails _ _ _ _ _ why decrypted, rfl⟩
  | ok halves =>
    obtain ⟨received, plain⟩ := halves
    dsimp only
    cases computed : telegramMac backend key (octetAt secured 0) (readArray sequenceSize 1 secured)
        binding control.algorithm plain with
    | error why =>
      exact .inl ⟨⟨control, decoded, .inr ⟨received, plain, why, decrypted, computed⟩⟩,
        why, telegramMac_fails _ _ _ _ _ _ _ why computed, rfl⟩
    | ok mac =>
      refine .inr ⟨?_, ?_⟩
      · rintro ⟨other, same, failed⟩
        obtain rfl : control = other := Except.ok.inj (decoded.symm.trans same)
        rcases failed with ⟨why, failed⟩ | ⟨received', plain', why, other, failed⟩
        · rw [decrypted] at failed
          cases failed
        · rw [decrypted] at other
          cases other
          rw [computed] at failed
          cases failed
      · dsimp only
        split
        · exact .inr ⟨plain, rfl, decryptApdu_length long decrypted⟩
        · exact .inl rfl

/-! ## The whole call -/

theorem observed_counted (counter : FailureCounter) (result : Expected Octets) :
    ctx.Observed (ctx.withCounters (·.count counter), result) :=
  fun _ _ => ⟨counter, rfl⟩

theorem observed_ok (after : Context) (result : Octets) : ctx.Observed (after, .ok result) := by
  rintro why ⟨⟩

theorem not_observed_of_same {after : Context} (same : after.counters = ctx.counters)
    (why : ErrorCode) : ¬ ctx.Observed (after, .error why) := by
  intro observed
  obtain ⟨counter, counted⟩ := observed why rfl
  exact count_ne _ _ (counted.symm.trans same)

section

variable (admits : ctx.Admits frame (frame.securedApdu cemi) key)

include admits

theorem openSecured_unopened {why : ErrorCode}
    (failed : openApdu backend maxPlainApdu key frame.binding (frame.securedApdu cemi) =
      .error why) :
    ctx.openSecured backend frame cemi =
      (if why = .knx .secureAuthenticationFailed then
          ctx.withCounters (·.count .authenticationFailures) else ctx, .error why) := by
  unfold openSecured
  dsimp only
  rw [admitSecured_admits admits]
  dsimp only
  rw [failed]
  rfl

/-- Behind the MAC a telegram is counted unless it is taken and then too short. -/
theorem openSecured_opened
    (opened : openApdu backend maxPlainApdu key frame.binding (frame.securedApdu cemi) = .ok plain) :
    ctx.Observed (ctx.openSecured backend frame cemi) ↔
      ¬ (plain.length < apciSize ∧ ctx.Takes frame (sequenceOf (frame.securedApdu cemi))) := by
  unfold openSecured
  dsimp only
  rw [admitSecured_admits admits]
  dsimp only
  rw [opened]
  by_cases taken : ctx.Takes frame (sequenceOf (frame.securedApdu cemi))
  · obtain ⟨accepted, same⟩ := acceptSequence_takes taken
    cases step : ctx.acceptSequence frame (sequenceOf (frame.securedApdu cemi)) with
    | mk after result =>
      rw [step] at accepted same
      cases accepted
      by_cases short : plain.length < apciSize
      · simp only [short, if_true, taken, and_self, not_true_eq_false, iff_false]
        exact not_observed_of_same same _
      · simp only [short, if_false, false_and, not_false_eq_true, iff_true]
        exact observed_ok _ _
  · obtain ⟨counter, why, refused⟩ := acceptSequence_refuses taken
    rw [refused]
    simp only [taken, and_false, not_false_eq_true, iff_true]
    exact observed_counted counter _

theorem openSecured_observed_iff
    (carried : (frame.securedApdu cemi).length ≤ securedApduOverhead + maxPlainApdu) :
    ctx.Observed (ctx.openSecured backend frame cemi) ↔
      ¬ ctx.Unobserved backend frame key (frame.securedApdu cemi) := by
  obtain ⟨control, decoded⟩ := ordinaryData_decodes admits.ordinary
  by_cases long : securedApduOverhead ≤ (frame.securedApdu cemi).length
  · have whole : ¬ (frame.securedApdu cemi).length < securedApduOverhead := Nat.not_lt.mpr long
    rcases openApdu_judges backend key frame.binding long carried decoded with
      ⟨fails, why, failure, failed⟩ | ⟨answered, refused | ⟨plain, opened, size⟩⟩
    · refine iff_of_false ?_ (not_not.mpr (.inr (.inl fails)))
      rw [openSecured_unopened admits failed, if_neg failure.ne_authentication]
      exact not_observed_of_same rfl why
    · refine iff_of_true ?_ ?_
      · rw [openSecured_unopened admits refused, if_pos rfl]
        exact observed_counted .authenticationFailures _
      · rintro (short | fails | ⟨-, ⟨plain, opened⟩, -⟩)
        · exact whole short
        · exact answered fails
        · rw [refused] at opened
          cases opened
    · rw [openSecured_opened admits opened, not_iff_not]
      constructor
      · rintro ⟨short, taken⟩
        exact .inr (.inr ⟨by omega, ⟨plain, opened⟩, taken⟩)
      · rintro (short | fails | ⟨short, -, taken⟩)
        · exact absurd short whole
        · exact absurd fails answered
        · exact ⟨by omega, taken⟩
  · have short : (frame.securedApdu cemi).length < securedApduOverhead := Nat.lt_of_not_le long
    have failed : openApdu backend maxPlainApdu key frame.binding (frame.securedApdu cemi) =
        refuse .malformedFrame := by
      unfold openApdu
      rw [if_pos short]
    refine iff_of_false ?_ (not_not.mpr (.inl short))
    rw [openSecured_unopened admits failed, if_neg (by decide)]
    exact not_observed_of_same rfl _

end

/-- The secured APDU of a frame fits the codec, because its length is one octet. -/
theorem securedApdu_carried (frame : FrameView) (cemi : Octets) :
    (frame.securedApdu cemi).length ≤ securedApduOverhead + maxPlainApdu := by
  have bound : (frame.securedApdu cemi).length ≤ frame.dataLength.toNat - 1 := by
    exact List.length_take_le _ _
  have octet : frame.dataLength.toNat < 256 := frame.dataLength.toNat_lt
  unfold maxPlainApdu
  omega

/-- Opening a frame fails with exactly one more refusal counted, unless a secured telegram that was
admitted to the codec is too short for its own fields, is not answered by the crypto library, or is
authentic and fresh with a plain APDU too short to be carried on. -/
theorem refusals_counted_iff (ctx : Context) (backend : CryptoBackend) (cemi : Octets)
    (valid : ctx.valid = true) :
    ctx.Observed (ctx.openFrame backend cemi) ↔
      ∀ frame key, view cemi = some frame → frame.secured = true →
        ctx.Admits frame (frame.securedApdu cemi) key →
        ¬ ctx.Unobserved backend frame key (frame.securedApdu cemi) := by
  unfold openFrame
  rw [if_neg (not_not.mpr valid)]
  cases viewed : view cemi with
  | none => exact iff_of_true (observed_ok _ _) (by rintro frame key ⟨⟩)
  | some frame =>
    dsimp only
    by_cases marked : frame.secured = true
    · rw [if_pos marked]
      by_cases admitted : ∃ key, ctx.Admits frame (frame.securedApdu cemi) key
      · obtain ⟨key, admits⟩ := admitted
        rw [openSecured_observed_iff admits (securedApdu_carried frame cemi)]
        constructor
        · rintro observed frame' key' ⟨rfl⟩ - admits'
          obtain rfl : key = key' := Option.some.inj (admits.keyed.symm.trans admits'.keyed)
          exact observed
        · intro observed
          exact observed frame key rfl marked admits
      · refine iff_of_true ?_ ?_
        · obtain ⟨counter, why, counted⟩ : ∃ counter why, ctx.admitSecured frame
              (frame.securedApdu cemi) = (ctx.withCounters (·.count counter), .error why) := by
            unfold admitSecured
            split
            · exact ⟨.refusedServices, _, rfl⟩
            rename_i data
            simp only [not_or, not_not, Bool.not_eq_false] at data
            split
            · rename_i key keyed allowed
              exact absurd ⟨key, data.1, data.2, keyed, allowed⟩ admitted
            · exact ⟨.missingKeys, _, rfl⟩
          unfold openSecured
          dsimp only
          rw [counted]
          exact observed_counted counter _
        · rintro frame' key ⟨rfl⟩ - admits
          exact absurd ⟨key, admits⟩ admitted
    · rw [if_neg marked]
      refine iff_of_true ?_ ?_
      · split
        · exact observed_counted .unencryptedRefused _
        · exact observed_ok _ _
      · rintro frame' key ⟨rfl⟩ marked'
        exact absurd marked' marked

def clearWrite : Octets := [0x29, 0x00, 0xBC, 0xE0, 0x11, 0x05, 0x09, 0x01, 0x01, 0x00, 0x81]

/-- The clear write is refused, and counted. -/
theorem refusals_counted_iff_clear :
    groupContext.valid = true ∧
      (groupContext.openFrame groupWriteRecording.backend clearWrite).2 =
        refuse .secureFrameRequired ∧
      groupContext.Observed (groupContext.openFrame groupWriteRecording.backend clearWrite) := by
  have unmarked : ∀ frame, view clearWrite = some frame → frame.secured = false := by
    decide +kernel
  refine ⟨by decide, by decide +kernel, (refusals_counted_iff _ _ _ (by decide)).mpr ?_⟩
  intro frame key viewed marked
  rw [unmarked frame viewed] at marked
  cases marked

/-- The same write as a secured telegram that ends behind its control octet. -/
def cutWrite : Octets := [0x29, 0x00, 0xBC, 0xE0, 0x11, 0x05, 0x09, 0x01, 0x02, 0x03, 0xF1, 0x10]

/-- The cut telegram is refused, and no counter changes. -/
theorem cut_telegram_not_counted :
    groupContext.valid = true ∧
      (groupContext.openFrame groupWriteRecording.backend cutWrite).2 = refuse .malformedFrame ∧
      (groupContext.openFrame groupWriteRecording.backend cutWrite).1.counters =
        groupContext.counters ∧
      ¬ groupContext.Observed (groupContext.openFrame groupWriteRecording.backend cutWrite) := by
  have refused : (groupContext.openFrame groupWriteRecording.backend cutWrite).2 =
      refuse .malformedFrame := by decide +kernel
  have same : (groupContext.openFrame groupWriteRecording.backend cutWrite).1.counters =
      groupContext.counters := by decide +kernel
  refine ⟨by decide, refused, same, fun observed => ?_⟩
  obtain ⟨counter, counted⟩ := observed _ refused
  exact count_ne _ _ (counted.symm.trans same)

end Context

end KmxAio.Knx.DataSecure
