import ProstheticConscience.Gateway.Isolation
import ProstheticConscience.Gateway.ClientFrames
import ProstheticConscience.Gateway.Notifications
import ProstheticConscience.ConsensusCli.Recovery
import ProstheticConscience.ConsensusCli.Submission
import ProstheticConscience.Consensus.DraftClaims
import ProstheticConscience.Consensus.SessionTransport
import ProstheticConscience.ConsensusWasm.Handle
import ProstheticConscience.Gateway.Workers
import ProstheticConscience.Gateway.Deadlines
import ProstheticConscience.Gateway.SessionIndependence
import ProstheticConscience.Consensus.Replay
import ProstheticConscience.ConsensusCli.Resume
import ProstheticConscience.Consensus.Queries
import ProstheticConscience.Consensus.Tools
import ProstheticConscience.Consensus.AppTools
import ProstheticConscience.Consensus.ToolExecution
import ProstheticConscience.Consensus.Format
import ProstheticConscience.Consensus.LlmTurn
import ProstheticConscience.Consensus.DraftNotice
import ProstheticConscience.Consensus.Dialogue
import ProstheticConscience.ConsensusCli.Llm
import ProstheticConscience.Consensus.BrowserConversation
import ProstheticConscience.Library.UnitDecoder
import ProstheticConscience.Text
import ProstheticConscience.Gateway.Sse
import ProstheticConscience.Gateway.SseCuts
import ProstheticConscience.Consensus.Truncation
import ProstheticConscience.Consensus.ToolBatch
import ProstheticConscience.ConsensusCli.RequestSize
import ProstheticConscience.Consensus.FetchPlans
import ProstheticConscience.Consensus.SubmissionProgress
import ProstheticConscience.Consensus.StatusLocality
import ProstheticConscience.Consensus.ImpactExact
import ProstheticConscience.Client.ToolLoop
import ProstheticConscience.Consensus.Fragments
import ProstheticConscience.JsonGrammar
import ProstheticConscience.Consensus.ToolResults
import ProstheticConscience.Consensus.RenderOrder
import ProstheticConscience.Consensus.ClaimRefs
import ProstheticConscience.Library.Prism
import ProstheticConscience.Wire
import ProstheticConscience.Consensus.EntryCodec
import ProstheticConscience.Consensus.SessionProtocol
import ProstheticConscience.Gateway.Capabilities
import ProstheticConscience.Gateway.WorkerProtocol
import ProstheticConscience.Gateway.SessionConnection
import ProstheticConscience.Gateway.SessionHub
import ProstheticConscience.Gateway.SubscriberAccounting
import ProstheticConscience.ConsensusCli.Seed
import ProstheticConscience.Utf8
import ProstheticConscience.JsonPrint
import ProstheticConscience.Gateway.ChatResponse
import ProstheticConscience.Gateway.ChatStream
import ProstheticConscience.Gateway.WireTexts
import ProstheticConscience.Gateway.Transcription
import ProstheticConscience.Client.CurrentTime
import ProstheticConscience.Library.Backoff
import ProstheticConscience.ConsensusCli.Session
import ProstheticConscience.Library.BackwardSimulation
import ProstheticConscience.ConsensusCli.SessionRefinement
import ProstheticConscience.ConsensusCli.SessionSocket
import ProstheticConscience.Consensus.Backoff
import ProstheticConscience.ConsensusSupport.Evaluation
import ProstheticConscience.Library.Delivery
import ProstheticConscience.Worker.Client
import ProstheticConscience.Gateway.StreamNotes
