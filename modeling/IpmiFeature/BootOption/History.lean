import IpmiFeature.BootOption.Order

/-!
# Boots with failing commands

A request of the BMC is carried out by reading the boot flags and then writing them back without it.
Nothing looks at the status of the write: when it has no effect, the next boot finds the request
again.  As long as the writes have their effect, whatever else fails and whatever they are answered,
a request is reported once in all boots (`boots_atMostOnce`).
-/

namespace IpmiFeature

open Interaction Prog Mock

namespace BootOption

/-! ### Failures -/

/-- The reply tells of a failure: an error status, a completion code, or too few bytes. -/
def Failed (request : SubmitCall) (reply : SubmitReply) : Prop :=
  reply.status.isError ∨ reply.response 0 ≠ compCodeNormal ∨
    reply.responseDataSize < request.responseDataSize

/-- What becomes of a command. -/
inductive CommandOutcome (request : SubmitCall) where
  /-- It is carried out and answered. -/
  | answered
  /-- The caller gets a failure; the BMC may have carried out the command. -/
  | failed (reply : SubmitReply) (h : Failed request reply) (carriedOut : Bool)

/-- The command has its effect. -/
def CommandOutcome.CarriedOut {request : SubmitCall} : CommandOutcome request → Prop
  | .answered => True
  | .failed _ _ carriedOut => carriedOut

/-- What becomes of the `n`-th command. -/
abbrev FailurePattern := ℕ → (request : SubmitCall) → CommandOutcome request

/-- The mock BMC with failures.  The state counts the commands. -/
def faulty (pattern : FailurePattern) : Handler SubmitCall SubmitCall.Answer (ℕ × Option Bmc)
  | request, (n, bmc) =>
    let (reply, bmc') := mockBaseLib request bmc
    match pattern n request with
    | .answered => (reply, (n + 1, bmc'))
    | .failed failure _ carriedOut => (failure, (n + 1, if carriedOut then bmc' else bmc))

variable (pattern : FailurePattern) (n : ℕ) {b b' : Option Bmc} {flags flags' : BootFlags}
  {request : SubmitCall} {reply : SubmitReply}

/-- A command that leaves the flags as they are. -/
theorem faulty_read (h : Stores b flags) (h' : Stores b' flags)
    (hcall : mockBaseLib request b = (reply, b')) : ∃ reply' b'',
      faulty pattern request (n, b) = (reply', (n + 1, b'')) ∧ Stores b'' flags ∧
        (reply' = reply ∨ Failed request reply') := by
  rw [faulty, hcall]
  cases pattern n request with
  | answered => exact ⟨reply, b', rfl, h', .inl rfl⟩
  | failed failure hfailed carriedOut =>
    cases carriedOut with
    | false => exact ⟨failure, b, rfl, h, .inr hfailed⟩
    | true => exact ⟨failure, b', rfl, h', .inr hfailed⟩

/-- A command that stores other flags. -/
theorem faulty_write (h : Stores b flags) (h' : Stores b' flags')
    (hcall : mockBaseLib request b = (reply, b')) : ∃ reply' b'' flags'',
      faulty pattern request (n, b) = (reply', (n + 1, b'')) ∧ Stores b'' flags'' ∧
        (flags'' = flags ∨ flags'' = flags') ∧
          ((pattern n request).CarriedOut → flags'' = flags') := by
  rw [faulty, hcall]
  cases pattern n request with
  | answered => exact ⟨reply, b', flags', rfl, h', .inr rfl, fun _ => rfl⟩
  | failed failure hfailed carriedOut =>
    cases carriedOut with
    | false => exact ⟨failure, b, flags, rfl, h, .inl rfl, nofun⟩
    | true => exact ⟨failure, b', flags', rfl, h', .inr rfl, fun _ => rfl⟩

/-- `IpmiGetBootOption` makes an error of a failure. -/
theorem checkBootOption_of_failed (h : Failed request reply) :
    ∃ status, status ≠ .success ∧ checkBootOption request.responseDataSize reply = .error status := by
  unfold checkBootOption
  by_cases hstatus : reply.status.isError
  · rw [if_pos hstatus]
    exact ⟨_, EfiStatus.isError_iff.1 hstatus, rfl⟩
  rw [if_neg hstatus]
  by_cases hempty : reply.responseDataSize < 1
  · rw [if_pos hempty]
    exact ⟨_, by decide, rfl⟩
  rw [if_neg hempty]
  by_cases hcode : reply.response 0 ≠ compCodeNormal
  · rw [if_pos hcode]
    exact ⟨_, by decide, rfl⟩
  rw [if_neg hcode]
  have hshort : reply.responseDataSize < request.responseDataSize :=
    (h.resolve_left hstatus).resolve_left hcode
  rw [if_pos hshort]
  exact ⟨_, by decide, rfl⟩

/-! ### The two functions -/

/-- What may be stored after a call that has found `flags` and writes back `written`: the flags are
only kept if the write is not carried out. -/
structure WrittenBack (pattern : FailurePattern) (flags : BootFlags) (written : Option BootFlags)
    (flags' : BootFlags) : Prop where
  eq_or_eq : flags' = flags ∨ flags' = written.getD flags
  eq_of_carriedOut : (∀ n w, written = some w → (pattern n (setFlagsCall w)).CarriedOut) →
    flags' = written.getD flags

theorem Stores.faulty_writeBack (h : Stores b flags) (written : Option BootFlags) : ∃ n' b' flags',
    writeBack (faulty pattern) (n, b) written = (n', b') ∧ Stores b' flags' ∧
      WrittenBack pattern flags written flags' := by
  cases written with
  | none => exact ⟨n, b, flags, rfl, h, .inl rfl, fun _ => rfl⟩
  | some w =>
    obtain ⟨b₁, hset, h₁⟩ := h.setFlags w
    obtain ⟨reply, b₂, flags', hfaulty, h₂, hor, hcarried⟩ := faulty_write pattern n h h₁ hset
    refine ⟨n + 1, b₂, flags', ?_, h₂, hor, fun hall => hcarried (hall n w rfl)⟩
    rw [writeBack, hfaulty]

/-- A call that has found `flags`: it fails and leaves them, or it gives back what they ask for and
writes back `written`. -/
def Consumed {α : Type} (pattern : FailurePattern) (flags : BootFlags) (requested : α)
    (written : Option BootFlags) (x : EfiStatus × α) (s' : ℕ × Option Bmc) : Prop :=
  ∃ flags', Stores s'.2 flags' ∧ (x.1 ≠ .success ∧ flags' = flags ∨
    x = (.success, requested) ∧ WrittenBack pattern flags written flags')

/-- The reads of a call that finds `flags`: the first one fails, or the second one, or none. -/
inductive Reads (pattern : FailurePattern) (flags : BootFlags) (s : ℕ × Option Bmc) : Prop
  | progressFailed {status : EfiStatus} (herror : status ≠ .success)
      (hfailed : checkBootOption 4
        (faulty pattern (getCall parameterSetInProgress 4) s).1 = .error status)
      (hstores : Stores (faulty pattern (getCall parameterSetInProgress 4) s).2.2 flags)
  | flagsFailed {status : EfiStatus} {s₁ : ℕ × Option Bmc} (herror : status ≠ .success)
      (hprogress : faulty pattern (getCall parameterSetInProgress 4) s = (progressReply, s₁))
      (hfailed : checkBootOption 8
        (faulty pattern (getCall parameterBootFlags 8) s₁).1 = .error status)
      (hstores : Stores (faulty pattern (getCall parameterBootFlags 8) s₁).2.2 flags)
  | succeeded {s₁ s₂ : ℕ × Option Bmc}
      (hprogress : faulty pattern (getCall parameterSetInProgress 4) s = (progressReply, s₁))
      (hflags : faulty pattern (getCall parameterBootFlags 8) s₁ = (flagsReply flags, s₂))
      (hstores : Stores s₂.2 flags)

theorem Stores.reads (h : Stores b flags) : Reads pattern flags (n, b) := by
  obtain ⟨_, hcall, h'⟩ := h.getSetInProgress
  obtain ⟨progress, b₁, hprogress, h₁, hreply⟩ := faulty_read pattern n h h' hcall
  rcases hreply with rfl | hfailed
  · obtain ⟨_, hcall, h'⟩ := h₁.getBootFlags
    obtain ⟨reply, b₂, hflags, h₂, hreply⟩ := faulty_read pattern (n + 1) h₁ h' hcall
    rcases hreply with rfl | hfailed
    · exact .succeeded hprogress hflags h₂
    · obtain ⟨status, herror, hcheck⟩ := checkBootOption_of_failed hfailed
      refine .flagsFailed herror hprogress ?_ ?_
      · rw [hflags]
        exact hcheck
      · rw [hflags]
        exact h₂
  · obtain ⟨status, herror, hcheck⟩ := checkBootOption_of_failed hfailed
    refine .progressFailed herror ?_ ?_
    · rw [hprogress]
      exact hcheck
    · rw [hprogress]
      exact h₁

theorem ends_ipmiGetBootDevice_faulty {selector : BootOptionSelector} (h : Stores b flags) :
    (ipmiGetBootDevice selector).Ends (faulty pattern) (n, b)
      (Consumed pattern flags flags.requestedDevice flags.writtenByBootDevice) := by
  cases h.reads pattern n with
  | progressFailed herror hfailed hstores =>
    rw [ends_ipmiGetBootDevice_progressFailed hfailed]
    exact ⟨flags, hstores, .inl ⟨herror, rfl⟩⟩
  | flagsFailed herror hprogress hfailed hstores =>
    rw [ends_ipmiGetBootDevice_flagsFailed hprogress hfailed]
    exact ⟨flags, hstores, .inl ⟨herror, rfl⟩⟩
  | @succeeded s₁ s₂ hprogress hflags hstores =>
    rw [ends_ipmiGetBootDevice hprogress hflags]
    obtain ⟨n₃, b₃, flags', hwrite, h₃, hwritten⟩ :=
      hstores.faulty_writeBack pattern s₂.1 flags.writtenByBootDevice
    obtain ⟨_, hcall, h'⟩ := h₃.acknowledge
    obtain ⟨reply, b₄, hacknowledge, h₄, -⟩ := faulty_read pattern n₃ h₃ h' hcall
    refine ⟨flags', ?_, .inr ⟨rfl, hwritten⟩⟩
    rw [hwrite, hacknowledge]
    exact h₄

theorem ends_ipmiGetCmosClearOption_faulty (h : Stores b flags) :
    ipmiGetCmosClearOption.Ends (faulty pattern) (n, b)
      (Consumed pattern flags flags.requestedClear flags.writtenByCmosClear) := by
  cases h.reads pattern n with
  | progressFailed herror hfailed hstores =>
    rw [ends_ipmiGetCmosClearOption_progressFailed hfailed]
    exact ⟨flags, hstores, .inl ⟨herror, rfl⟩⟩
  | flagsFailed herror hprogress hfailed hstores =>
    rw [ends_ipmiGetCmosClearOption_flagsFailed hprogress hfailed]
    exact ⟨flags, hstores, .inl ⟨herror, rfl⟩⟩
  | @succeeded s₁ s₂ hprogress hflags hstores =>
    rw [ends_ipmiGetCmosClearOption hprogress hflags]
    obtain ⟨n₃, b₃, flags', hwrite, h₃, hwritten⟩ :=
      hstores.faulty_writeBack pattern s₂.1 flags.writtenByCmosClear
    refine ⟨flags', ?_, .inr ⟨rfl, hwritten⟩⟩
    rw [hwrite]
    exact h₃

/-! ### Boots -/

/-- What a boot depends on. -/
structure Boot where
  /-- The status and `RebootRequired` of `PlatformClearCmos`, should it be called. -/
  platformClearCmos : EfiStatus × Bool
  /-- `*Selector` before the call. -/
  selector : BootOptionSelector

/-- What comes of a boot. -/
structure BootReport where
  entry : CmosEntry
  /-- What `IpmiGetBootDevice` has given back, if the boot gets there. -/
  device : Option (EfiStatus × BootOptionSelector)
  deriving DecidableEq, Repr

/-- A boot: `IpmiCmosEntryPoint`, and `IpmiGetBootDevice` unless the system is reset. -/
def runBoot (boot : Boot) : SubmitProg BootReport := do
  let entry ← ipmiCmosEntryPoint boot.platformClearCmos
  if entry.reset then
    return ⟨entry, none⟩
  else
    let device ← ipmiGetBootDevice boot.selector
    return ⟨entry, some device⟩

/-- The boot clears the CMOS. -/
def BootReport.clearsCmos (report : BootReport) : Bool := report.entry.option = (.success, true)

/-- The boot has an override of its device. -/
def BootReport.overridesDevice (report : BootReport) : Bool :=
  report.device.any fun device => device.1 = .success && device.2 ≠ .bootNone

variable {τ : Type} {h : Handler SubmitCall SubmitCall.Answer τ} {s : τ}

theorem ends_ipmiCmosEntryPoint {platformClearCmos : EfiStatus × Bool} {Q : CmosEntry → τ → Prop}
    (hoption : ipmiGetCmosClearOption.Ends h s fun option s' =>
      ∀ entry : CmosEntry, entry.option = option → Q entry s') :
    (ipmiCmosEntryPoint platformClearCmos).Ends h s Q := by
  rw [ipmiCmosEntryPoint, ends_bind]
  refine hoption.mono fun option s' hentry => ?_
  split_ifs <;> exact hentry _ rfl

theorem ends_runBoot {boot : Boot} {Q : BootReport → τ → Prop}
    (hboot : ipmiGetCmosClearOption.Ends h s fun option s' =>
      ∀ entry : CmosEntry, entry.option = option → Q ⟨entry, none⟩ s' ∧
        (ipmiGetBootDevice boot.selector).Ends h s' fun device s'' => Q ⟨entry, some device⟩ s'') :
    (runBoot boot).Ends h s Q := by
  rw [runBoot, ends_bind]
  refine ends_ipmiCmosEntryPoint (hboot.mono fun option s' hoption entry hentry => ?_)
  obtain ⟨hreset, hdevice⟩ := hoption entry hentry
  by_cases hentry : entry.reset
  · rw [if_pos hentry]
    exact hreset
  · rw [if_neg hentry, ends_bind]
    exact hdevice

/-! ### At most once -/

/-- The flags ask for an override. -/
def BootFlags.overrides (flags : BootFlags) : Bool := flags.requestedDevice ≠ .bootNone

variable {pattern} {written : Option BootFlags} {s' : ℕ × Option Bmc}

/-- What `IpmiGetCmosClearOption` writes is valid. -/
theorem bootFlagValid_of_writtenByCmosClear (h : flags.writtenByCmosClear = some flags') :
    flags'.bootFlagValid := by
  unfold BootFlags.writtenByCmosClear at h
  split_ifs at h with hclear
  obtain rfl := Option.some_inj.1 h
  exact (Bool.and_eq_true_iff.1 hclear).1

theorem eq_zero_of_writtenByBootDevice (h : flags.writtenByBootDevice = some flags') :
    flags' = .zero := by
  unfold BootFlags.writtenByBootDevice at h
  split_ifs at h
  exact (Option.some_inj.1 h).symm

/-- It leaves the override. -/
theorem overrides_afterCmosClear (flags : BootFlags) :
    flags.afterCmosClear.overrides = flags.overrides := by
  unfold BootFlags.overrides
  rw [requestedDevice_afterCmosClear]

theorem persistentOptions_afterCmosClear (flags : BootFlags) :
    flags.afterCmosClear.persistentOptions = flags.persistentOptions := by
  by_cases hrequested : flags.requestedClear
  · rw [afterCmosClear_of_requested hrequested]
    rfl
  · rw [afterCmosClear_of_not_requested hrequested]

/-- `IpmiGetBootDevice` asks for no CMOS clear. -/
theorem requestedClear_of_afterBootDevice (h : flags.afterBootDevice.requestedClear) :
    flags.requestedClear := by
  by_cases hpersistent : flags.persistentOptions
  · rwa [afterBootDevice_of_kept fun _ => hpersistent] at h
  · rw [requestedClear_afterBootDevice hpersistent] at h
    exact absurd h Bool.false_ne_true

/-- It uses up an override that is not persistent. -/
theorem overrides_afterBootDevice (h : ¬ flags.persistentOptions) :
    ¬ flags.afterBootDevice.overrides := by
  by_cases hvalid : flags.bootFlagValid
  · rw [afterBootDevice_of_once hvalid h]
    decide
  · rw [afterBootDevice_of_kept fun h => absurd h hvalid]
    simp [BootFlags.overrides, BootFlags.requestedDevice, hvalid]

theorem persistentOptions_afterBootDevice (h : ¬ flags.persistentOptions) :
    ¬ flags.afterBootDevice.persistentOptions := by
  by_cases hvalid : flags.bootFlagValid
  · rw [afterBootDevice_of_once hvalid h]
    decide
  · rwa [afterBootDevice_of_kept fun h => absurd h hvalid]

/-- What holds of the flags before and after the write holds of those stored in the end. -/
theorem Consumed.exists_stores {α : Type} {requested : α} {x : EfiStatus × α}
    {P : BootFlags → Prop} (h : Consumed pattern flags requested written x s') (hkept : P flags)
    (hwritten : P (written.getD flags)) : ∃ flags', Stores s'.2 flags' ∧ P flags' := by
  obtain ⟨flags', hstores, ⟨-, rfl⟩ | ⟨-, hback⟩⟩ := h
  · exact ⟨flags', hstores, hkept⟩
  · obtain rfl | rfl := hback.eq_or_eq
    · exact ⟨flags', hstores, hkept⟩
    · exact ⟨_, hstores, hwritten⟩

/-- A call whose writes are carried out. -/
theorem Consumed.of_carriedOut {α : Type} {requested : α} {x : EfiStatus × α}
    (h : Consumed pattern flags requested written x s')
    (hcarried : ∀ n w, written = some w → (pattern n (setFlagsCall w)).CarriedOut) :
    ∃ flags', Stores s'.2 flags' ∧ (x.1 ≠ .success ∧ flags' = flags ∨
      x = (.success, requested) ∧ flags' = written.getD flags) := by
  obtain ⟨flags', hstores, hfailed | ⟨hx, hback⟩⟩ := h
  · exact ⟨flags', hstores, .inl hfailed⟩
  · exact ⟨flags', hstores, .inr ⟨hx, hback.eq_of_carriedOut hcarried⟩⟩

/-- A boot that reports a CMOS clear uses it up, and no boot makes one. -/
theorem ends_runBoot_clearsCmos
    (hclear : ∀ n flags, flags.bootFlagValid → (pattern n (setFlagsCall flags)).CarriedOut)
    (boot : Boot) (s : ℕ × Option Bmc) (flags : BootFlags) (hs : Stores s.2 flags) :
    (runBoot boot).Ends (faulty pattern) s fun report s' => ∃ flags', Stores s'.2 flags' ∧
      (flags'.requestedClear → flags.requestedClear) ∧
        (report.clearsCmos → flags.requestedClear ∧ ¬ flags'.requestedClear) := by
  have hcarried : ∀ n w, flags.writtenByCmosClear = some w →
      (pattern n (setFlagsCall w)).CarriedOut :=
    fun n w hw => hclear n w (bootFlagValid_of_writtenByCmosClear hw)
  refine ends_runBoot ((ends_ipmiGetCmosClearOption_faulty pattern s.1 hs).mono ?_)
  rintro _ ⟨n₁, b₁⟩ hconsumed entry rfl
  obtain ⟨flags₁, h₁, hoption⟩ := hconsumed.of_carriedOut hcarried
  have hcleared : ¬ flags.afterCmosClear.requestedClear := by
    rw [requestedClear_afterCmosClear]
    exact Bool.false_ne_true
  have hold : flags₁.requestedClear → flags.requestedClear := by
    obtain ⟨-, rfl⟩ | ⟨-, rfl⟩ := hoption
    · exact id
    · exact fun h => absurd h hcleared
  have hused : entry.option = (.success, true) →
      flags.requestedClear ∧ ¬ flags₁.requestedClear := by
    intro hreport
    obtain ⟨herror, -⟩ | ⟨hx, rfl⟩ := hoption
    · rw [hreport] at herror
      exact absurd rfl herror
    · rw [hreport] at hx
      exact ⟨(Prod.mk.inj hx).2.symm, hcleared⟩
  constructor
  · exact ⟨flags₁, h₁, hold, fun h => hused (of_decide_eq_true h)⟩
  · refine (ends_ipmiGetBootDevice_faulty pattern n₁ h₁).mono fun device s₂ hconsumed => ?_
    obtain ⟨flags₂, h₂, hclear₂⟩ := hconsumed.exists_stores
      (P := fun flags₂ => flags₂.requestedClear → flags₁.requestedClear) id
      requestedClear_of_afterBootDevice
    refine ⟨flags₂, h₂, fun h => hold (hclear₂ h), fun h => ?_⟩
    obtain ⟨hasked, hgone⟩ := hused (of_decide_eq_true h)
    exact ⟨hasked, fun h => hgone (hclear₂ h)⟩

/-- A boot that reports an override uses it up, and no boot makes one. -/
theorem ends_runBoot_overridesDevice
    (hclear : ∀ n, (pattern n (setFlagsCall .zero)).CarriedOut)
    (boot : Boot) (s : ℕ × Option Bmc) (flags : BootFlags)
    (hs : Stores s.2 flags ∧ ¬ flags.persistentOptions) :
    (runBoot boot).Ends (faulty pattern) s fun report s' =>
      ∃ flags', (Stores s'.2 flags' ∧ ¬ flags'.persistentOptions) ∧
        (flags'.overrides → flags.overrides) ∧
          (report.overridesDevice → flags.overrides ∧ ¬ flags'.overrides) := by
  obtain ⟨hstores, hpersistent⟩ := hs
  refine ends_runBoot ((ends_ipmiGetCmosClearOption_faulty pattern s.1 hstores).mono ?_)
  rintro _ ⟨n₁, b₁⟩ hconsumed entry -
  have hkept : ¬ flags.afterCmosClear.persistentOptions := by
    rwa [persistentOptions_afterCmosClear]
  obtain ⟨flags₁, h₁, hpersistent₁, hoverrides₁⟩ := hconsumed.exists_stores
    (P := fun flags₁ => ¬ flags₁.persistentOptions ∧ flags₁.overrides = flags.overrides)
    ⟨hpersistent, rfl⟩ ⟨hkept, overrides_afterCmosClear flags⟩
  rw [← hoverrides₁]
  constructor
  · exact ⟨flags₁, ⟨h₁, hpersistent₁⟩, id, nofun⟩
  · refine (ends_ipmiGetBootDevice_faulty pattern n₁ h₁).mono fun device s₂ hconsumed => ?_
    obtain ⟨flags₂, h₂, hdevice⟩ := hconsumed.of_carriedOut fun n w hw =>
      eq_zero_of_writtenByBootDevice hw ▸ hclear n
    obtain ⟨herror, rfl⟩ | ⟨hx, rfl⟩ := hdevice
    · refine ⟨flags₂, ⟨h₂, hpersistent₁⟩, id, fun hreport => ?_⟩
      exact absurd (of_decide_eq_true (Bool.and_eq_true_iff.1 hreport).1) herror
    · have hgone := overrides_afterBootDevice hpersistent₁
      refine ⟨_, ⟨h₂, persistentOptions_afterBootDevice hpersistent₁⟩,
        fun h => absurd h hgone, fun hreport => ⟨?_, hgone⟩⟩
      have hselector := (Bool.and_eq_true_iff.1 hreport).2
      rw [hx] at hselector
      exact hselector

/-! ### What is sent -/

/-- The pattern for the commands of a trace; all others are answered. -/
def FailurePattern.sentOnly (pattern : FailurePattern)
    (tr : List (Event SubmitCall SubmitCall.Answer)) : FailurePattern := fun n request =>
  if tr[n]?.map (·.1) = some request then pattern n request else .answered

/-- A run depends on what becomes of the commands that are sent. -/
theorem exec_faulty_congr {α : Type} {pattern' : FailurePattern} {p : SubmitProg α} {n : ℕ}
    {b : Option Bmc} {a : α} {tr : List (Event SubmitCall SubmitCall.Answer)}
    (hrun : p.exec (faulty pattern) (n, b) = some (a, tr, s'))
    (hsent : ∀ i request, tr[i]?.map (·.1) = some request →
      pattern' (n + i) request = pattern (n + i) request) :
    p.exec (faulty pattern') (n, b) = some (a, tr, s') := by
  induction p generalizing n b tr with
  | ret a => exact hrun
  | outOfFuel => exact hrun
  | call request k ih =>
    obtain ⟨tr', rfl, hrun'⟩ := exec_call_eq_some.1 hrun
    have hfirst : faulty pattern' request (n, b) = faulty pattern request (n, b) := by
      have hsame : pattern' n request = pattern n request := hsent 0 request rfl
      simp only [faulty, hsame]
    have hcount : (faulty pattern request (n, b)).2 =
        (n + 1, (faulty pattern request (n, b)).2.2) := by
      simp only [faulty]
      cases pattern n request <;> rfl
    rw [exec_call_eq_some, hfirst]
    refine ⟨tr', rfl, ?_⟩
    rw [hcount] at hrun' ⊢
    refine ih _ hrun' fun i request' hi => ?_
    rw [Nat.add_right_comm, Nat.add_assoc]
    exact hsent (i + 1) request' hi

/-- The writes of a run that store flags of the given kind have their effect. -/
def WritesCarriedOut (pattern : FailurePattern) (kind : BootFlags → Prop)
    (tr : List (Event SubmitCall SubmitCall.Answer)) : Prop :=
  ∀ n flags, tr[n]?.map (·.1) = some (setFlagsCall flags) → kind flags →
    (pattern n (setFlagsCall flags)).CarriedOut

theorem WritesCarriedOut.sentOnly {kind : BootFlags → Prop}
    {tr : List (Event SubmitCall SubmitCall.Answer)} (h : WritesCarriedOut pattern kind tr) (n : ℕ)
    (flags : BootFlags) (hkind : kind flags) :
    (pattern.sentOnly tr n (setFlagsCall flags)).CarriedOut := by
  unfold FailurePattern.sentOnly
  by_cases hsent : tr[n]?.map (·.1) = some (setFlagsCall flags)
  · rw [if_pos hsent]
    exact h n flags hsent hkind
  · rw [if_neg hsent]
    trivial

/-- Boots end, whatever fails. -/
theorem ends_boots (pattern : FailurePattern) (boots : List Boot) {s : ℕ × Option Bmc}
    (hs : ∃ flags, Stores s.2 flags) :
    (boots.mapM runBoot).Ends (faulty pattern) s fun _ s' => ∃ flags, Stores s'.2 flags := by
  refine ends_mapM_of_invariant ?_ boots hs
  rintro boot ⟨n, b⟩ ⟨flags, h⟩
  refine ends_runBoot ((ends_ipmiGetCmosClearOption_faulty pattern n h).mono ?_)
  rintro option ⟨n₁, b₁⟩ ⟨flags₁, h₁, -⟩ entry -
  refine ⟨⟨flags₁, h₁⟩, (ends_ipmiGetBootDevice_faulty pattern n₁ h₁).mono ?_⟩
  rintro device s₂ ⟨flags₂, h₂, -⟩
  exact ⟨flags₂, h₂⟩

/-- For all flags, all sequences of boots and all failures: as long as the writes by which
`IpmiGetCmosClearOption` clears its bit are carried out, a CMOS clear is reported at most once; and
as long as those by which `IpmiGetBootDevice` clears the flags are, an override that is not
persistent is reported at most once. -/
theorem boots_atMostOnce {bmc : Bmc} (boots : List Boot) (pattern : FailurePattern)
    (hidle : bmc.Idle) : ∃ reports tr s',
      (boots.mapM runBoot).exec (faulty pattern) (0, some bmc) = some (reports, tr, s') ∧
      (WritesCarriedOut pattern (·.bootFlagValid) tr → reports.countP (·.clearsCmos) ≤ 1) ∧
      (WritesCarriedOut pattern (· = .zero) tr → ¬ bmc.state.bootFlags.persistentOptions →
        reports.countP (·.overridesDevice) ≤ 1) := by
  have hstores : Stores (some bmc) bmc.state.bootFlags := ⟨bmc, rfl, hidle, rfl⟩
  obtain ⟨reports, tr, s', hrun, -⟩ := ends_iff_exec.1
    (ends_boots pattern boots (s := (0, some bmc)) ⟨_, hstores⟩)
  have hrun' : (boots.mapM runBoot).exec (faulty (pattern.sentOnly tr)) (0, some bmc) =
      some (reports, tr, s') := by
    refine exec_faulty_congr hrun fun i request hsent => ?_
    rw [Nat.zero_add, FailurePattern.sentOnly, if_pos hsent]
  refine ⟨reports, tr, s', hrun, fun hclear => ?_, fun hclear hpersistent => ?_⟩
  · have honce := ends_mapM_atMostOnce (ends_runBoot_clearsCmos hclear.sentOnly) boots
      (s := (0, some bmc)) hstores
    exact (honce.of_exec hrun').1
  · have honce := ends_mapM_atMostOnce
      (ends_runBoot_overridesDevice fun n => hclear.sentOnly n .zero rfl) boots
      (s := (0, some bmc)) ⟨hstores, hpersistent⟩
    exact (honce.of_exec hrun').1

/-- All writes time out, and have their effect or not. -/
def writesTimeOut (carriedOut : Bool) : FailurePattern := fun _ request =>
  if request.command = chassisSetSystemBootOptions then
    .failed ⟨.timeout, [], request.responseDataSize⟩ (.inl rfl) carriedOut
  else
    .answered

/-- A boot without a reset. -/
def plainBoot : Boot := ⟨(.success, false), .bootNone⟩

/-- When the writes have no effect, the second boot clears the CMOS and boots from PXE again. -/
theorem boots_twice : ¬ ([plainBoot, plainBoot].mapM runBoot).Ends (faulty (writesTimeOut false))
    (0, some (bmcWith pxeAndClear)) fun reports _ =>
      reports.countP (·.clearsCmos) ≤ 1 ∨ reports.countP (·.overridesDevice) ≤ 1 := by
  intro h
  have hrun : (([plainBoot, plainBoot].mapM runBoot).exec (faulty (writesTimeOut false))
      (0, some (bmcWith pxeAndClear))).map
        (fun run => (run.1.countP (·.clearsCmos), run.1.countP (·.overridesDevice))) =
          some (2, 2) := by decide
  obtain ⟨⟨reports, tr, s'⟩, hexec, hcounts⟩ := Option.map_eq_some_iff.1 hrun
  obtain ⟨hclears, hoverrides⟩ := Prod.mk.inj hcounts
  have honce := h.of_exec hexec
  rw [hclears, hoverrides] at honce
  exact absurd honce (by decide)

theorem boots_atMostOnce_writesTimeOut : ∃ reports tr s',
    ([plainBoot, plainBoot].mapM runBoot).exec (faulty (writesTimeOut true))
        (0, some (bmcWith pxeAndClear)) = some (reports, tr, s') ∧
      reports.countP (·.clearsCmos) ≤ 1 ∧ reports.countP (·.overridesDevice) ≤ 1 := by
  have hidle : (bmcWith pxeAndClear).Idle := ⟨rfl⟩
  obtain ⟨reports, tr, s', hrun, hclears, hoverrides⟩ :=
    boots_atMostOnce [plainBoot, plainBoot] (writesTimeOut true) hidle
  exact ⟨reports, tr, s', hrun, hclears fun _ _ _ _ => rfl,
    hoverrides (fun _ _ _ _ => rfl) (by decide)⟩

end BootOption

end IpmiFeature
