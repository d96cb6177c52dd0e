import IpmiFeature.Sel.Clear

/-!
# Replies that are too short

`SelGetTime`, `SelGetInfo` and `SelGetEntry` look at the status and at the completion code of a
reply, but not at its length.  A reply that is shorter than the response structure is turned down
only if it carries a completion code that is an error (`rejectsShort_iff`); otherwise the bytes that
are missing come from the local variable that the response goes to.  `IpmiAddSelEntry` turns all
short replies down (`ends_ipmiAddSelEntry_of_short`).
-/

namespace IpmiFeature

open Interaction Prog BaseLib

namespace Sel

theorem statusOf_of_success {result : SubmitResult} (h : result.status = .success) :
    statusOf result = ipmiCompCodeToEfiStatus (result.buffer 0) := by
  rw [statusOf, h]
  rfl

/-! ### The queries -/

/-- A query of the SEL, with its argument. -/
inductive Query where
  /-- `SelGetTime`. -/
  | getTime
  /-- `SelGetInfo`. -/
  | getInfo
  /-- `SelGetEntry`. -/
  | getEntry (recordId : UInt16)
  deriving DecidableEq, Repr

/-- The objects of the caller that queries write to. -/
structure Outputs where
  /-- `*Time`. -/
  time : UInt32
  /-- `*SelInfo`. -/
  selInfo : SelInfo
  /-- The memory behind `Record`. -/
  record : Memory UInt8
  /-- `*NextRecordId`, unless the pointer is `NULL`. -/
  nextRecordId : Option UInt16

/-- What a query with the given result leaves to its caller; after an error that is nothing. -/
def Outputs.after {α : Type} (outputs : Outputs) (write : α → Outputs) :
    Except EfiStatus α → EfiStatus × Outputs
  | .error status => (status, outputs)
  | .ok value => (.success, write value)

namespace Query

/-- The size of the response structure. -/
def responseSize : Query → ℕ
  | getTime => 5
  | getInfo => 15
  | getEntry _ => 19

/-- The command. -/
def call : Query → SubmitCall
  | getTime => ⟨netfnStorage, storageGetSelTime, [], 5⟩
  | getInfo => ⟨netfnStorage, storageGetSelInfo, [], 15⟩
  | getEntry recordId =>
    ⟨netfnStorage, storageGetSelEntry, [0, 0] ++ (byteOfShort recordId).slice 0 2 ++ [0, 0xFF], 19⟩

/-- The response before the command; only `SelGetEntry` sets it to zero. -/
def response (stack : Memory UInt8) : Query → Memory UInt8
  | getTime | getInfo => stack
  | getEntry _ => stack.store 0 (List.replicate 19 0)

/-- What a successful query writes. -/
def write (buffer : Memory UInt8) (outputs : Outputs) : Query → Outputs
  | getTime => { outputs with time := wordOf buffer 1 }
  | getInfo =>
    { outputs with selInfo := ⟨buffer 1, shortOf buffer 2, shortOf buffer 4, wordOf buffer 6,
        wordOf buffer 10, buffer 14⟩ }
  | getEntry _ =>
    { outputs with
      record := outputs.record.store 0 (buffer.slice 3 selEntrySize)
      nextRecordId := outputs.nextRecordId.map fun _ => shortOf buffer 1 }

/-- The query, with the objects of the caller before it: its status and the objects after it. -/
def run (stack : Memory UInt8) (outputs : Outputs) : Query → SubmitProg (EfiStatus × Outputs)
  | getTime => outputs.after (fun time => { outputs with time }) <$> selGetTime stack
  | getInfo => outputs.after (fun selInfo => { outputs with selInfo }) <$> selGetInfo stack
  | getEntry recordId =>
    outputs.after (fun x =>
      { outputs with record := x.1, nextRecordId := outputs.nextRecordId.map fun _ => x.2 }) <$>
        selGetEntry stack recordId outputs.record

/-- What a query makes of the reply. -/
def answered (query : Query) (stack : Memory UInt8) (outputs : Outputs) (reply : SubmitReply) :
    EfiStatus × Outputs :=
  let result := BufferedCall.result ⟨query.call, query.response stack⟩ reply
  if (statusOf result).isError then (statusOf result, outputs)
  else (.success, query.write result.buffer outputs)

theorem after_valueOf {α : Type} (result : SubmitResult) (value : α) (outputs : Outputs)
    (write : α → Outputs) : outputs.after write (valueOf result value) =
      if (statusOf result).isError then (statusOf result, outputs)
      else (.success, write value) := by
  unfold valueOf
  split_ifs <;> rfl

/-- A query is one command. -/
theorem run_eq (query : Query) (stack : Memory UInt8) (outputs : Outputs) :
    query.run stack outputs =
      perform query.call >>= fun reply => pure (query.answered stack outputs reply) := by
  cases query with
  | getTime =>
    exact congrArg (Prog.call (call .getTime)) (funext fun _ => congrArg ret (after_valueOf ..))
  | getInfo =>
    exact congrArg (Prog.call (call .getInfo)) (funext fun _ => congrArg ret (after_valueOf ..))
  | getEntry recordId =>
    exact congrArg (Prog.call (call (.getEntry recordId)))
      (funext fun _ => congrArg ret (after_valueOf ..))

/-! ### Short replies -/

variable {query : Query} {stack stack' : Memory UInt8} {outputs : Outputs} {reply : SubmitReply}

/-- A completion code that is sent and is an error is the status. -/
theorem answered_of_code {code : UInt8} {rest : List UInt8} (hstatus : reply.status = .success)
    (hdata : reply.data = code :: rest) (hcode : code ≠ compCodeNormal) :
    query.answered stack outputs reply = (ipmiCompCodeToEfiStatus code, outputs) := by
  have herror : ipmiCompCodeToEfiStatus code ≠ .success := fun h =>
    hcode (ipmiCompCodeToEfiStatus_eq_success.1 h)
  have hread : statusOf (BufferedCall.result ⟨query.call, query.response stack⟩ reply) =
      ipmiCompCodeToEfiStatus code := by
    have hbuffer : (query.response stack).store 0 reply.data 0 = code := by
      rw [hdata]
      rfl
    rw [statusOf_of_success hstatus]
    exact congrArg ipmiCompCodeToEfiStatus hbuffer
  rw [answered, hread]
  exact if_pos (EfiStatus.isError_iff.2 herror)

/-- Over a stack of zeros any other completion code is normal. -/
theorem answered_of_no_code (hstatus : reply.status = .success)
    (hdata : ∀ code rest, reply.data = code :: rest → code = compCodeNormal) :
    (query.answered (fun _ => 0) outputs reply).1 = .success := by
  have hzero : query.response (fun _ => 0) 0 = compCodeNormal := by cases query <;> rfl
  have hbuffer : (query.response fun _ => 0).store 0 reply.data 0 = compCodeNormal := by
    cases hreply : reply.data with
    | nil =>
      rw [Memory.store_nil]
      exact hzero
    | cons code rest => exact hdata code rest hreply
  have hread : statusOf (BufferedCall.result ⟨query.call, query.response fun _ => 0⟩ reply) =
      .success := by
    rw [statusOf_of_success hstatus]
    exact ipmiCompCodeToEfiStatus_eq_success.2 hbuffer
  rw [answered, hread]
  rfl

end Query

/-- A BMC that gives the one reply. -/
def giving (reply : SubmitReply) : Handler SubmitCall SubmitCall.Answer Unit :=
  fun _ _ => (reply, ())

/-- A reply without all of the response is turned down. -/
structure RejectsShort (query : Query) (reply : SubmitReply) : Prop where
  /-- The query fails, and writes nothing. -/
  fails : ∀ stack outputs, (query.run stack outputs).Ends (giving reply) () fun x _ =>
    x.1 ≠ .success ∧ x.2 = outputs
  /-- Nothing depends on what the stack holds. -/
  same : ∀ stack stack' outputs, (query.run stack outputs).exec (giving reply) () =
    (query.run stack' outputs).exec (giving reply) ()

/-- A successful reply of fewer bytes than the response structure. -/
structure ShortReply (query : Query) where
  reply : SubmitReply
  status_eq : reply.status = .success
  length_lt : reply.data.length < query.responseSize

/-- **When a short reply is turned down.**  A query turns it down if and only if its first byte is
there and is not the normal completion code. -/
theorem rejectsShort_iff (query : Query) (short : ShortReply query) :
    RejectsShort query short.reply ↔
      ∃ code rest, short.reply.data = code :: rest ∧ code ≠ compCodeNormal := by
  constructor
  · rintro ⟨hfails, -⟩
    by_contra hno
    have hnormal : ∀ code rest, short.reply.data = code :: rest → code = compCodeNormal :=
      fun code rest hdata => not_not.1 fun hcode => hno ⟨code, rest, hdata, hcode⟩
    have hends := hfails (fun _ => 0) ⟨0, ⟨0, 0, 0, 0, 0, 0⟩, fun _ => 0, none⟩
    rw [Query.run_eq] at hends
    exact hends.1 (Query.answered_of_no_code short.status_eq hnormal)
  · rintro ⟨code, rest, hdata, hcode⟩
    have herror : ipmiCompCodeToEfiStatus code ≠ .success := fun h =>
      hcode (ipmiCompCodeToEfiStatus_eq_success.1 h)
    have hanswered : ∀ stack outputs, query.answered stack outputs short.reply =
        (ipmiCompCodeToEfiStatus code, outputs) := fun stack outputs =>
      Query.answered_of_code short.status_eq hdata hcode
    refine ⟨fun stack outputs => ?_, fun stack stack' outputs => ?_⟩
    · rw [Query.run_eq]
      change (query.answered stack outputs short.reply).1 ≠ .success ∧
        (query.answered stack outputs short.reply).2 = outputs
      rw [hanswered]
      exact ⟨herror, rfl⟩
    · rw [Query.run_eq, Query.run_eq]
      change some (query.answered stack outputs short.reply, _, _) =
        some (query.answered stack' outputs short.reply, _, _)
      rw [hanswered, hanswered]

/-- The normal completion code alone is taken for the time; the rest of it is from the stack. -/
theorem rejectsShort_getTime : ∃ short : ShortReply .getTime,
    short.reply = ⟨.success, [compCodeNormal], 1⟩ ∧ ¬ RejectsShort .getTime short.reply := by
  refine ⟨⟨⟨.success, [compCodeNormal], 1⟩, rfl, by decide⟩, rfl, fun h => ?_⟩
  have hread : ∀ byte : UInt8, (Query.getTime.run (fun _ => byte)
      ⟨0, ⟨0, 0, 0, 0, 0, 0⟩, fun _ => 0, none⟩).exec (giving ⟨.success, [compCodeNormal], 1⟩) () =
        (Query.getTime.run (fun _ => 0)
          ⟨0, ⟨0, 0, 0, 0, 0, 0⟩, fun _ => 0, none⟩).exec (giving ⟨.success, [compCodeNormal], 1⟩) () :=
    fun byte => h.same (fun _ => byte) (fun _ => 0) _
  have htime := congrArg (Option.map fun run => run.1.2.time) (hread 1)
  exact absurd htime (by decide)

/-! ### Adding an entry -/

/-- A reply of fewer than three bytes is an error of `IpmiAddSelEntry`, whatever the stack holds. -/
theorem ends_ipmiAddSelEntry_of_short (stack : Memory UInt8) (entry : List UInt8)
    {reply : SubmitReply} (hshort : reply.data.length < 3)
    (hsize : reply.responseDataSize = UInt32.ofNat reply.data.length) :
    (ipmiAddSelEntry stack entry).Ends (giving reply) () fun x _ =>
      ∃ status, x = .error status := by
  have htoo : reply.responseDataSize < 3 := by
    rw [hsize, UInt32.lt_iff_toNat_lt, UInt32.toNat_ofNat_of_lt' (by
      change reply.data.length < 4294967296
      omega)]
    exact hshort
  change ∃ status, addedRecordId (BufferedCall.result _ reply) = .error status
  unfold addedRecordId
  split_ifs with _ _ _ hroom
  · exact ⟨_, rfl⟩
  · exact ⟨_, rfl⟩
  · exact ⟨_, rfl⟩
  · exact ⟨_, rfl⟩
  · exact absurd htoo hroom

end Sel

end IpmiFeature
