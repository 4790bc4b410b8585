import JetStream.Catalog
import JetStream.Consumer.Copy
import JetStream.Consumer.Fetch
import JetStream.Consumer.StepDown
import JetStream.Consumer.Subscription
import JetStream.Report.Consumer

/-!
# Administration

The commands about consumers, each with what it shows to the operator.
-/

namespace JetStream.Administration

open Job (attempt inContext request tell write)
open Consumer (Config FetchOptions Flags Handle Info StepDownReport SubscribeOptions Summary)

/-- Shows the state of a consumer. -/
def display (h : Handle) : Job Unit := do
  let state ← inContext ("could not load Consumer " ++ h.label) h.state
  write (Report.consumer state)

/-- Creates a consumer and shows it. -/
def create (stream : String) (config : Config) : Job Handle := do
  let created ← Catalog.create stream config
  display created
  return created

/-- Copies a consumer, changed only as the flags say, and shows the copy unless it has no name. -/
def copy (now : Instant) (stream source destination : String) (flags : Flags) : Job Handle := do
  let model ← Catalog.consumer stream source
  let config ← MonadExcept.ofExcept (Consumer.copy now flags model.config destination)
  let created ← inContext "consumer copy failed" (Catalog.create stream config)
  tell (.info "copied consumer"
    [("stream", stream), ("source", source), ("consumer", created.name)])
  if config.durableName.isSome then display created
  return created

/-- Shows a consumer, as data if so wanted. -/
def info (stream consumer : String) (json : Bool) : Job Unit := do
  let h ← Catalog.consumer stream consumer
  if json then write (Report.line (← h.state).toJson.pretty) else display h

/-- Lists the names of the consumers of a stream. -/
def list (stream : String) (json : Bool) : Job (List String) := do
  let _ ← Catalog.stream stream
  let names ← inContext "could not load Consumers" (Catalog.consumerNames stream)
  write (if json then Report.line (Json.ofStrings names).pretty
    else Report.consumerList stream names)
  return names

/-- Deletes a consumer. -/
def remove (stream consumer : String) : Job Unit := do
  let h ← Catalog.consumer stream consumer
  h.delete
  tell (.info "deleted consumer" [("stream", stream), ("consumer", consumer)])

/-- The states of consumers, without those that cannot be had. -/
def states (stream : String) : List String → Job (List Info)
  | [] => return []
  | name :: rest => do
      match ← attempt (.consumerInfo stream name) with
      | .ok state => return state :: (← states stream rest)
      | .error e =>
          tell (.warn "Could not obtain consumer state"
            [("consumer", name), ("error", e.message)])
          states stream rest

/-- Shows a table of the consumers of a stream, and counts them. -/
def report (stream : String) (raw : Bool) : Job Nat := do
  let info ← Catalog.stream stream
  write ("Consumer report for " ++ stream ++ " with " ++ toString info.state.consumers ++
    " consumers\n\n")
  let rows ← states stream (← Catalog.consumerNames stream)
  write (Report.line (Report.consumerTable info.state.messages raw rows))
  return rows.length

/-- What the operator reads about a leader that was asked to step down. -/
def stepDownText (json : Bool) (report : StepDownReport) : String :=
  if json then Report.line report.state.toJson.pretty
  else report.outcome.text ++ "\n\n" ++ Report.consumer report.state

/-- Has the leader of a consumer step down, and shows the consumer afterwards. -/
def stepDown (stream consumer : String) (json : Bool) : Job StepDownReport := do
  let h ← Catalog.consumer stream consumer
  let report ← Consumer.stepDown h
  write (stepDownText json report)
  return report

/-- Fetches the next message of a pull consumer. -/
def next (stream consumer : String) (options : FetchOptions) (source : RandomSource) :
    Job Unit := do
  let h ← Catalog.consumer stream consumer
  if h.config.isPull then
    let _ ← Consumer.fetch h options source
  else throw (.input (Broker.notPull stream consumer))

/-- Fetches one message of a pull consumer, waiting no longer than the timeout, or receives those
of a push consumer.  Only the latter has something to sum up. -/
def sub (timeout : Duration) (stream consumer : String) (options : SubscribeOptions)
    (source : RandomSource) (interruption : Option Nat) : Job (Option Summary) := do
  let h ← Catalog.consumer stream consumer
  if h.config.isPull then
    let _ ← Consumer.fetch h { ack := options.ack, raw := options.raw, expiry := timeout } source
    return none
  else return some (← Consumer.subscribe h options interruption)

end JetStream.Administration
