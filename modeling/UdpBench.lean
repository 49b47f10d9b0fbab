import UdpBench.Bench.Basic
import UdpBench.Bench.Trial
import UdpBench.Main
import UdpBench.Proofs.Addresses
import UdpBench.Proofs.Decoding
import UdpBench.Proofs.Emission
import UdpBench.Proofs.Operations
import UdpBench.Proofs.Host
import UdpBench.Proofs.Changes
import UdpBench.Proofs.Calls
import UdpBench.Proofs.Schedules
import UdpBench.Proofs.Delivery
import UdpBench.Proofs.Ownership
import UdpBench.Proofs.Failure
import UdpBench.Proofs.Firing
import UdpBench.Proofs.Waiting
import UdpBench.Proofs.Gaps
import UdpBench.Proofs.Turns
import UdpBench.Proofs.Stopping
import UdpBench.Proofs.Session
import UdpBench.Proofs.Tally
import UdpBench.Proofs.Reporting
import UdpBench.Proofs.Escaping
import UdpBench.Proofs.Preview
import UdpBench.Proofs.DatagramLine
import UdpBench.Proofs.Neighbours
import UdpBench.Proofs.Answers
import UdpBench.Proofs.Echoing
import UdpBench.Proofs.Shuffle
import UdpBench.Proofs.Verdicts
import UdpBench.Proofs.Transmission
import UdpBench.Proofs.Series
import UdpBench.Proofs.Crowd
import UdpBench.Proofs.Arguments
import UdpBench.Proofs.Spellings
import UdpBench.Proofs.Verbatim
import UdpBench.Proofs.Substitution
import UdpBench.Proofs.Verbosity
import UdpBench.Proofs.Replies
import UdpBench.Proofs.Exits
import UdpBench.Proofs.Choices
import UdpBench.Proofs.AddressForms
import UdpBench.Proofs.AddressText
import UdpBench.Proofs.Messages
import UdpBench.Proofs.LevelNames
