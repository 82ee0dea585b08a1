/-!
# The link of a DNP3 port

`ChannelHandler` keeps what is known of the channel and of the link over it. Its functions run on
one strand. Each says to what the link state changes, if it does.
-/

set_option autoImplicit false

namespace OpenDataCon.DNP3Port

inductive LinkDeadness where
  | LinkDownChannelDown | LinkDownChannelUp | LinkUpChannelUp
deriving DecidableEq, Repr

/-- What the stack reports: the state of the channel, or the life of the link. -/
inductive LinkReport where
  | StateListener (channelOpen : Bool)
  | LinkDown
  | LinkUp
deriving DecidableEq, Repr

namespace LinkDeadness

/-- `StateListener_`, `LinkDown_` and `LinkUp_`: the new state, when `LinkDeadnessChange` is called
with it. -/
def change (linkDeadness : LinkDeadness) : LinkReport → Option LinkDeadness
  | .StateListener channelOpen =>
    if channelOpen && linkDeadness == .LinkDownChannelDown then some .LinkDownChannelUp
    else if !channelOpen && linkDeadness != .LinkDownChannelDown then some .LinkDownChannelDown
    else none
  | .LinkDown => if linkDeadness == .LinkUpChannelUp then some .LinkDownChannelUp else none
  | .LinkUp => if linkDeadness != .LinkUpChannelUp then some .LinkUpChannelUp else none

/-- `LinkDeadnessChange` is called with two different states. -/
theorem change_ne {previous next : LinkDeadness} {report : LinkReport}
    (changes : previous.change report = some next) : previous ≠ next := by
  cases report with
  | StateListener channelOpen =>
      cases channelOpen <;> cases previous <;> cases changes <;> decide
  | LinkDown => cases previous <;> cases changes <;> decide
  | LinkUp => cases previous <;> cases changes <;> decide

end LinkDeadness

end OpenDataCon.DNP3Port
