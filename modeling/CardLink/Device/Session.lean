import CardLink.Device.Step

/-!
A device as its client sees it: how opening it went, and what it did with one request after another. A
request that waits for itself is never answered, and nothing follows it.
-/

namespace CardLink

/-- What a client of a device sees. -/
structure DeviceSession (σ : Type) where
  /-- How opening the device went. -/
  opening : Report (Except DeviceError Unit)
  /-- What each request did; only the last one may be without an answer. -/
  reports : List (Report (Option DeviceAnswer))
  /-- The state of the host behind the last request, if that was answered. -/
  host : Option σ

variable {σ : Type} (model : HostModel σ) (config : DeviceConfig)

/-- Serves requests in order, up to one that is never answered: what each did, and the state at the end. -/
def serveDevice : List DeviceStep → BusState σ →
    List (Report (Option DeviceAnswer)) × Option (BusState σ)
  | [], state => ([], some state)
  | step :: rest, state =>
    let ran := (step.program config).run model state
    if ran.value.returned then
      let others := serveDevice rest ran.state
      (⟨some ran.value, ran.exchanges, ran.lines⟩ :: others.1, others.2)
    else ([⟨none, ran.exchanges, ran.lines⟩], none)

/-- Opens a device on a host and, if that succeeds, serves requests. -/
def runDevice (steps : List DeviceStep) (host : σ) (logger : Logger) : DeviceSession σ :=
  let opened := openDevice.run.run model { host, logger }
  let opening : Report (Except DeviceError Unit) := ⟨opened.value, opened.exchanges, opened.lines⟩
  match opened.value with
  | .error _ => ⟨opening, [], some opened.state.host⟩
  | .ok () =>
    let served := serveDevice model config steps opened.state
    ⟨opening, served.1, served.2.map BusState.host⟩

end CardLink
