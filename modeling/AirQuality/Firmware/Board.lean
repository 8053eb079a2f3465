import AirQuality.Firmware.Main

/-!
# The whole board

`app_main` over the LoRaWAN adapter: the adapter is asked to send the frame of the wake, and what it hands back is what `app_main`
handles. Each of the two then does what it does alone, so what holds of every run of the node, or of every run of the adapter,
holds of the board.
-/

namespace AirQuality

/-- What survives between two wakes: the RTC RAM of `main.cpp`, that of the adapter, and the flash. -/
structure Board where
  node : Node
  lora : LoraRtc
deriving DecidableEq

/-- What the outside world answers during one wake; the frame in `lora` is overwritten by that of the wake. -/
structure BoardWake where
  hal : AqSensorHal
  load : NvsCall
  save : NvsCall
  lora : LoraWake

inductive BoardEvent where
  | wake (w : BoardWake)
  | powerCut

/-- The frame `app_main` hands to `lorawan_send`. -/
def Board.frame (b : Board) (w : BoardWake) : Frame :=
  (sendUplink (!b.node.haveState) w.hal (b.node.boot w.load).state).1

/-- The wake as the adapter sees it. -/
def Board.loraWake (b : Board) (w : BoardWake) : LoraWake := { w.lora with frame := b.frame w }

/-- The wake as `app_main` sees it, given what `lorawan_send` hands back. -/
def BoardWake.input (w : BoardWake) (radio : LorawanResult) : WakeInput where
  hal := w.hal
  load := w.load
  radio := radio
  save := w.save

/-- The board over wakes separated by deep sleep: each gives the record of `app_main`, and what `lorawan_send` handed back and sent
over the air. -/
def boardWakes (lib : RadioLib) : Machine Board BoardWake (WakeRecord × LorawanResult × Air) where
  step b w :=
    let (lora, result, air) := (loraMachine lib).step b.lora (b.loraWake w)
    let (node, record) := appMain b.node (w.input result)
    ({ node, lora }, record, result, air)

/-- The board with power cuts. -/
def boardMachine (lib : RadioLib) : Machine Board BoardEvent (Option (WakeRecord × LorawanResult × Air)) where
  step b
    | .wake w => (((boardWakes lib).step b w).1, some ((boardWakes lib).step b w).2)
    | .powerCut => ({ node := Node.powerUp b.node.flash, lora := LoraRtc.powerUp }, none)

/-- The board when the power comes up. -/
def Board.powerUp (flash : Flash) : Board := { node := Node.powerUp flash, lora := LoraRtc.powerUp }

/-- An event as the node sees it. -/
def Board.nodeEvent (lib : RadioLib) (b : Board) : BoardEvent → NodeEvent
  | .wake w => .wake (w.input ((loraMachine lib).step b.lora (b.loraWake w)).2.1)
  | .powerCut => .powerCut

/-! ## Each half does what it does alone -/

/-- The board refines the node: a run of the board is a run of the node, with the adapter's answers for the radio. -/
theorem board_refines_node (lib : RadioLib) :
    (boardMachine lib).Refines nodeMachine (Board.nodeEvent lib) (Option.map Prod.fst) (fun b n => b.node = n) := by
  intro b n e h
  subst h
  cases e with
  | wake w => exact ⟨rfl, rfl⟩
  | powerCut => exact ⟨rfl, rfl⟩

/-- Between two power cuts the board refines the adapter: what it sends is a run of the adapter, with the frames of the wakes. -/
theorem board_refines_lora (lib : RadioLib) :
    (boardWakes lib).Refines (loraMachine lib) Board.loraWake Prod.snd (fun b rtc => b.lora = rtc) := by
  intro b rtc w h
  subst h
  exact ⟨rfl, rfl⟩

/-- The adapter's RTC RAM is well formed in every run of the board. -/
theorem boardRun_rtcOk (lib : RadioLib) (flash : Flash) (es : List BoardEvent) :
    RtcOk ((boardMachine lib).run (Board.powerUp flash) es).lora := by
  have hstep : ∀ (b : Board) (e : BoardEvent), RtcOk b.lora → RtcOk ((boardMachine lib).step b e).1.lora := by
    intro b e h
    cases e with
    | wake w => exact (loraMachine_step lib h (b.loraWake w)).1
    | powerCut => exact powerUp_rtcOk
  have hstart : RtcOk (Board.powerUp flash).lora := powerUp_rtcOk
  have hrun := (boardMachine lib).run_inv hstep hstart es
  exact hrun

/-- In every run of the board, an uplink that goes on air carries the frame that `app_main` sent in that wake. -/
theorem board_uplink_frame (lib : RadioLib) (flash : Flash) (es : List BoardEvent) {k : Nat} {record : WakeRecord}
    {result : LorawanResult} {air : Air}
    (h : ((boardMachine lib).outputs (Board.powerUp flash) es)[k]? = some (some (record, result, air))) {u : Uplink}
    (hu : air.uplink = some u) : u.frame = record.frame := by
  rw [Machine.outputs_getElem?, Option.map_eq_some_iff] at h
  obtain ⟨e, -, hout⟩ := h
  have hok := boardRun_rtcOk lib flash (es.take k)
  generalize (boardMachine lib).run (Board.powerUp flash) (es.take k) = b at hok hout
  cases e with
  | powerCut => cases hout
  | wake w =>
    have hstep : ((boardWakes lib).step b w).2 = (record, result, air) := Option.some.inj hout
    have hframe : b.frame w = record.frame := congrArg (fun out => out.1.frame) hstep
    have hair : ((loraMachine lib).step b.lora (b.loraWake w)).2.2 = air := congrArg (fun out => out.2.2) hstep
    have huplink := (loraMachine_step lib hok (b.loraWake w)).2.2.2.2.2
    rw [← hair, huplink] at hu
    split_ifs at hu
    obtain ⟨s, -, rfl⟩ := Option.map_eq_some_iff.1 hu
    exact hframe

end AirQuality
