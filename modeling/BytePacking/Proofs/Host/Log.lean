import BytePacking.Proofs.Traps

/-!
# What the calls of the host leave in the log

A copy is traced when it is called, before any argument is looked at, and with its numbers as they
came.  Every exception is recorded once, when it is raised, and nothing else is.  So the records of
a call are known from its arguments and its outcome: the trace, if it copies, and then the
exception, if it raises one (`Call.logs_reply`).  From the log of any sequence of calls one can read
off which exceptions the host has seen (`calls_log_traces_and_exceptions`).

There are many places where a call can fail, and all of them lead through `Reply.fail`.  That none
of them records twice or not at all is the law `Reply.Logs`, which holds of each part of a call and
goes over from the parts to the whole (`Reply.Logs.bind`).
-/

set_option autoImplicit false

namespace BytePacking

/-- The error in which a computation ends, if it ends in one. -/
def Outcome.error? {ε α : Type} : Outcome ε α → Option ε
  | .error e => some e
  | .ok _ | .trap => none

namespace Host

/-! ## Calls -/

/-- A call of the host with its arguments. -/
inductive Call where
  /-- Elements are written over bytes of the host. -/
  | packInto (t : ElementType) (inData : Option (List (Element t))) (inStart : Int32)
    (outData : Option (List Int8)) (outStart len : Int32)
  /-- Elements are read from bytes of the host into an array of it. -/
  | unpackInto (t : ElementType) (inData : Option (List Int8)) (inStart : Int32)
    (outData : Option (List (Element t))) (outStart len : Int32)
  /-- The host gets the bytes of elements. -/
  | pack (t : ElementType) (data : Option (List (Element t))) (start len : Int32)
  /-- The host gets the elements of bytes. -/
  | unpack (t : ElementType) (data : Option (List Int8)) (start len : Int32)

namespace Call

/-- What a call returns: a new array, or nothing if it copies. -/
def Result : Call → Type
  | packInto .. | unpackInto .. => Unit
  | pack .. => List Int8
  | unpack t .. => List (Element t)

/-- The reply to a call. -/
def reply : (call : Call) → Reply call.Result
  | packInto _ inData inStart outData outStart len =>
    (Host.packInto inData inStart outData outStart len).toReply
  | unpackInto _ inData inStart outData outStart len =>
    (Host.unpackInto inData inStart outData outStart len).toReply
  | pack _ data start len => Host.pack data start len
  | unpack t data start len => Host.unpack t data start len

/-- The records by which a call is traced.  Only copies are, with the length and the start among the
bytes that they were called with. -/
def traces : Call → List Record
  | packInto t _ _ _ outStart len => [.packing len t.width outStart]
  | unpackInto t _ inStart _ _ len => [.unpacking len t.width inStart]
  | pack .. | unpack .. => []

/-- What a sequence of calls leaves in the log. -/
def log (calls : List Call) : List Record := calls.flatMap fun call => call.reply.log

end Call

/-! ## The law of the log -/

section Law

variable {α β δ σ : Type} {traces : List Record}

/-- A reply leaves the given records, and then that of the exception if there is one. -/
def Reply.Logs (r : Reply α) (traces : List Record) : Prop :=
  r.log = traces ++ (r.outcome.error?.map .raising).toList

/-- A value without more to do leaves nothing. -/
theorem Reply.logs_pure (a : α) : (pure a : Reply α).Logs [] := rfl

/-- An operation leaves the exception for its error, if it ends with one. -/
theorem Reply.logs_ofOutcome (o : Outcome RangeError α) : (ofOutcome o).Logs [] := by
  cases o <;> rfl

/-- A missing array leaves its exception, and one that is there leaves nothing. -/
theorem Reply.logs_nonNull (argument : String) (data : Option α) :
    (nonNull argument data).Logs [] := by
  cases data <;> rfl

/-- Where a call goes on, it leaves what its first part left and the exception of the rest. -/
theorem Reply.Logs.bind {r : Reply α} {next : α → Reply β} (first : r.Logs traces)
    (rest : ∀ a, (next a).Logs []) : (r >>= next).Logs traces := by
  obtain ⟨log, outcome⟩ := r
  cases outcome with
  | ok a =>
    -- The first part has raised nothing, so that it has left the given records alone.
    have same : log = traces := first.trans (List.append_nil traces)
    show log ++ (next a).log = _
    rw [same, rest a]
    rfl
  | error e => exact first
  | trap => exact first

/-- A record that is left before anything else comes first. -/
theorem Reply.Logs.record_bind {r : Reply α} (record : Record) (rest : r.Logs traces) :
    (Reply.record record >>= fun _ => r).Logs (record :: traces) :=
  congrArg (record :: ·) rest

/-- A copying call leaves what its arguments leave and the exception of its change. -/
theorem Reply.Logs.update {arguments : Reply α} (accepted : arguments.Logs traces)
    (dest : Option (List δ)) (change : α → Update RangeError (List δ)) :
    (arguments.update dest change).toReply.Logs traces := by
  rw [Reply.toReply_update]
  exact accepted.bind fun a => logs_ofOutcome _

/-- Arguments for reading leave no trace, and the exception of the first of them that is
refused. -/
theorem logs_readingArguments (region : Region) (data : Option (List σ)) (start len : Int32) :
    (readingArguments region data start len).Logs [] := by
  refine (Reply.logs_nonNull ..).bind fun items => ?_
  refine (Reply.logs_ofOutcome _).bind fun start => ?_
  exact (Reply.logs_ofOutcome _).bind fun length => Reply.logs_pure _

/-- Arguments for copying leave no trace, and the exception of the first of them that is
refused. -/
theorem logs_copyingArguments (source target : Region) (inData : Option (List σ))
    (inStart : Int32) (outData : Option (List δ)) (outStart len : Int32) :
    (copyingArguments source target inData inStart outData outStart len).Logs [] := by
  refine (Reply.logs_nonNull ..).bind fun inItems => ?_
  refine (Reply.logs_nonNull ..).bind fun outItems => ?_
  exact (Reply.logs_ofOutcome _).bind fun numbers => Reply.logs_pure _

end Law

namespace Call

/-- Every call leaves its trace, and then the exception that it raises. -/
theorem logs_reply (call : Call) : call.reply.Logs call.traces := by
  cases call with
  | packInto t inData inStart outData outStart len =>
    exact ((logs_copyingArguments ..).record_bind _).update outData _
  | unpackInto t inData inStart outData outStart len =>
    exact ((logs_copyingArguments ..).record_bind _).update outData _
  | pack t data start len =>
    refine (logs_readingArguments ..).bind fun source => ?_
    exact (Reply.logs_ofOutcome _).bind fun bytes => Reply.logs_pure _
  | unpack t data start len =>
    exact (logs_readingArguments ..).bind fun source => Reply.logs_ofOutcome _

/-- Every call has an answer. -/
theorem reply_ne_trap (call : Call) : call.reply.outcome ≠ .trap := by
  cases call with
  | packInto t inData inStart outData outStart len =>
    exact packInto_ne_trap inData inStart outData outStart len
  | unpackInto t inData inStart outData outStart len =>
    exact unpackInto_ne_trap inData inStart outData outStart len
  | pack t data start len => exact pack_ne_trap data start len
  | unpack t data start len => exact unpack_ne_trap data start len

/-! ## Sequences of calls -/

/-- The trace of a call is no record of an exception. -/
theorem level_of_mem_traces {call : Call} {r : Record} (h : r ∈ call.traces) :
    r.level = .trace := by
  cases call with
  | packInto t inData inStart outData outStart len => rw [List.mem_singleton.1 h]; rfl
  | unpackInto t inData inStart outData outStart len => rw [List.mem_singleton.1 h]; rfl
  | pack t data start len => cases h
  | unpack t data start len => cases h

/-- One call leaves a record of an exception if it raises one. -/
theorem filter_debug_reply (call : Call) :
    call.reply.log.filter (·.level = .debug) =
      (call.reply.outcome.error?.map .raising).toList := by
  have quiet : call.traces.filter (·.level = .debug) = [] := by
    rw [List.filter_eq_nil_iff]
    intro r h
    simp [level_of_mem_traces h]
  rw [call.logs_reply, List.filter_append, quiet, List.nil_append]
  cases call.reply.outcome.error? <;> simp

/-- The exceptions of a sequence of calls are recorded, each once and in the order of the calls. -/
theorem filter_debug_log (calls : List Call) :
    (log calls).filter (·.level = .debug) =
      (calls.filterMap (·.reply.outcome.error?)).map .raising := by
  induction calls with
  | nil => rfl
  | cons call calls ih =>
    rw [log] at ih
    rw [log, List.flatMap_cons, List.filter_append, filter_debug_reply, ih, List.filterMap_cons]
    cases call.reply.outcome.error? <;> rfl

end Call

/-- The log of the calls of the host, whatever their arguments are.  A call has an answer.  It
leaves a trace if it copies, with the numbers that it was called with, and then a record of the
exception if it raises one; there is nothing else.  An exception is recorded with its class and its
message, a missing array under the short name of the class.

So in the log of a sequence of calls there are the exceptions that these calls have raised, in the
same order, and as many of them as there are calls that failed. -/
theorem calls_log_traces_and_exceptions :
    -- One call.
    (∀ call : Call, call.reply.outcome ≠ .trap ∧
      (∀ result, call.reply.outcome = .ok result → call.reply.log = call.traces) ∧
      ∀ e, call.reply.outcome = .error e → call.reply.log = call.traces ++ [.raising e]) ∧
    -- The records.
    (∀ (len : Int32) (width : Nat) (start : Int32),
      Record.packing len width start =
          ⟨.trace, "copy " ++ toString len.toInt ++ " elements of width " ++ toString width ++
            " to bytes at " ++ toString start.toInt⟩ ∧
        Record.unpacking len width start =
          ⟨.trace, "copy " ++ toString len.toInt ++ " elements of width " ++ toString width ++
            " from bytes at " ++ toString start.toInt⟩) ∧
    (∀ e : Exception, (Record.raising e).level = .debug ∧
      (e.hostClass = .indexOutOfBounds → (Record.raising e).text = "raising " ++ e.display) ∧
      (e.hostClass = .nullPointer →
        (Record.raising e).text = "raising NullPointerException: " ++ e.message)) ∧
    -- Sequences of calls.
    ∀ calls : List Call,
      (Call.log calls).filter (·.level = .debug) =
          (calls.filterMap (·.reply.outcome.error?)).map .raising ∧
        (Call.log calls).countP (·.level = .debug) =
          calls.countP (·.reply.outcome.error?.isSome) := by
  refine ⟨?_, ?_, ?_, ?_⟩
  · intro call
    have logs : call.reply.log = _ := call.logs_reply
    refine ⟨call.reply_ne_trap, ?_, ?_⟩
    · intro result ok
      rw [logs, ok]
      exact List.append_nil _
    · intro e refused
      rw [logs, refused]
      rfl
  · intro len width start
    exact ⟨rfl, rfl⟩
  · intro e
    cases e with
    | nullArgument argument =>
      exact ⟨rfl, nofun, fun _ => Record.text_raising_nullArgument argument⟩
    | outOfRange error => exact ⟨rfl, fun _ => Record.text_raising_outOfRange error, nofun⟩
  · intro calls
    have exceptions := Call.filter_debug_log calls
    refine ⟨exceptions, ?_⟩
    rw [List.countP_eq_length_filter, exceptions, List.length_map,
      List.length_filterMap_eq_countP]

/-- Two calls that fail and one that does not: a copy without its destination and with a negative
length, bytes that are not all there, and bytes that are. -/
theorem calls_log_traces_and_exceptions_int16 :
    (Call.packInto .int16 (some []) 0 none 4 (-1)).reply.log =
        [⟨.trace, "copy -1 elements of width 2 to bytes at 4"⟩,
          ⟨.debug, "raising NullPointerException: outData is null"⟩] ∧
      (Call.log [.packInto .int16 (some []) 0 none 4 (-1), .unpack .int16 (some [1, 2]) 0 2,
        .unpack .int16 (some [1, 2]) 0 1]).countP (·.level = .debug) = 2 := by
  obtain ⟨single, -, -, sequence⟩ := calls_log_traces_and_exceptions
  constructor
  · exact (single (.packInto .int16 (some []) 0 none 4 (-1))).2.2 (.nullArgument "outData") rfl
  · exact (sequence _).2

end Host

end BytePacking
