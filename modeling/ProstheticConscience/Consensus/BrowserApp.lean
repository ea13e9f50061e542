/-
Module: ProstheticConscience.Consensus.BrowserApp
Purpose: The browser-facing app: the coordinator of committed entries, the local drafts and the
  conversation, as far as the events of the coordinator go.
Trusted boundary: none
Main exports: BrowserApp.State, BrowserApp.init, BrowserApp.reduceCoordinatorEvent, BrowserApp.view
-/
import ProstheticConscience.Consensus.Conversation
import ProstheticConscience.Consensus.Coordinator
import ProstheticConscience.Consensus.Drafts

namespace ProstheticConscience.Consensus

namespace BrowserApp

def coordinatorPageLimit : Nat := 1000

structure ConversationConfig where
  model : String
  maxHistory : Nat
  maxTokens : Nat
deriving DecidableEq, Repr

structure State where
  participant : String
  conversationConfig : ConversationConfig
  conversation : Conversation.State
  coordinator : Coordinator.State Entry
  drafts : Drafts.State
deriving DecidableEq

inductive Effect where
  | conversationEffect (effect : Conversation.Effect)
  | coordinatorEffect (effect : Coordinator.Effect)
  | requestChatCompletion (payload : Value)
deriving DecidableEq, Repr

structure Transition where
  state : State
  effects : List Effect
deriving DecidableEq

structure View where
  overview : OverviewData
  drafts : List DraftEntry
  notice : Option Drafts.Notice
deriving DecidableEq, Repr

def init (participant : String) (latestEntryIndex : Option Nat)
    (conversationConfig : ConversationConfig) : Transition :=
  let coordinator := Coordinator.syncToLatest
    (.empty coordinatorPageLimit (by decide)) latestEntryIndex
  { state :=
      { participant
        conversationConfig
        conversation := Conversation.init
        coordinator := coordinator.state
        drafts := Drafts.init }
    effects := coordinator.effects.map .coordinatorEffect }

def reduceCoordinatorEvent (state : State) (event : Coordinator.Event Entry) : Transition :=
  let transition := Coordinator.reduce state.coordinator event
  { state := { state with coordinator := transition.state }
    effects := transition.effects.map .coordinatorEffect }

def overview (state : State) : OverviewData :=
  HashOrder.insertion.overviewFromEntries state.coordinator.committedPrefix

def view (state : State) : View where
  overview := overview state
  drafts := Drafts.showDrafts state.drafts
  notice := state.drafts.lastNotice

end BrowserApp

end ProstheticConscience.Consensus
