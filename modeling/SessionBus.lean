import SessionBus.Main
import SessionBus.Proofs.Bus.Interleaving
import SessionBus.Proofs.Bus.Role
import SessionBus.Proofs.Command.Sending
import SessionBus.Proofs.Command.Status
import SessionBus.Proofs.Hub.Answering
import SessionBus.Proofs.Hub.Attribution
import SessionBus.Proofs.Hub.LineBuffer
import SessionBus.Proofs.Hub.Occupancy
import SessionBus.Proofs.Hub.Prompt
import SessionBus.Proofs.Message.Rearranged
import SessionBus.Proofs.Registry.Abandoned
import SessionBus.Proofs.Registry.Apart
import SessionBus.Proofs.Registry.Confined
import SessionBus.Proofs.Registry.Replay
import SessionBus.Proofs.Relay.Order
import SessionBus.Proofs.Spelling
import SessionBus.Proofs.Topic.Audience
import SessionBus.Proofs.Transport.Replies
import SessionBus.Proofs.Transport.Sizes
import SessionBus.Proofs.Transport.Traffic
