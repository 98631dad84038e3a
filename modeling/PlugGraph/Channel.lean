import PlugGraph.Plug

/-!
# Transform channels

A transform has nine channels: translation, rotation and scale along three axes. Each is written
under a long or a short name.
-/

namespace PlugGraph

/-- What a transform channel changes. -/
inductive Motion where
  | translate
  | rotate
  | scale
deriving DecidableEq, Repr

structure Channel where
  motion : Motion
  axis : Axis
deriving DecidableEq, Repr

namespace Channel

def all : List Channel :=
  [.translate, .rotate, .scale].flatMap fun motion =>
    [Axis.x, .y, .z].map fun axis => ⟨motion, axis⟩

/-- The short name, such as `tx`. -/
def name (channel : Channel) : String :=
  let motion := match channel.motion with
    | .translate => 't'
    | .rotate => 'r'
    | .scale => 's'
  .ofList [motion, channel.axis.letter.toLower]

/-- The long name, such as `translateX`. -/
def longName (channel : Channel) : String :=
  let motion := match channel.motion with
    | .translate => "translate"
    | .rotate => "rotate"
    | .scale => "scale"
  motion.push channel.axis.letter

/-- The channel that an attribute name, long or short, denotes. -/
def ofAttr? (attr : String) : Option Channel :=
  all.find? fun channel => channel.name == attr || channel.longName == attr

def ofName? (name : String) : Option Channel := all.find? (·.name == name)

def ofPlug? (text : String) : Option (String × Channel) := do
  let plug ← Plug.ofText? text
  let channel ← ofAttr? plug.attr
  return (plug.node, channel)

end Channel

end PlugGraph
