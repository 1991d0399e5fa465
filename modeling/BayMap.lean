import BayMap.CommandLine.Invocation
import BayMap.CommandLine.Options
import BayMap.CommandLine.Outcome
import BayMap.Files.Snapshot
import BayMap.Main
import BayMap.Text.Dump
import BayMap.Proofs.Exchange
import BayMap.Proofs.Carriers
import BayMap.Proofs.Hearing
import BayMap.Proofs.Reports
import BayMap.Proofs.LastReport
import BayMap.Proofs.PlainPath
import BayMap.Proofs.SwitchedNode
import BayMap.Proofs.PassFrames
import BayMap.Proofs.ExpanderEntries
import BayMap.Proofs.Trials
import BayMap.Proofs.Accounts
import BayMap.Proofs.Registrations
import BayMap.Proofs.ControllerBindings
import BayMap.Proofs.PacketReading
import BayMap.Proofs.FixedNodes
import BayMap.Proofs.UnopenedNodes
import BayMap.Proofs.ControllerLimit
import BayMap.Proofs.Inquiries
import BayMap.Proofs.ControllerTargets
import BayMap.Proofs.ScanRecords
import BayMap.Proofs.IndependentVisits
import BayMap.Proofs.PassRequests
import BayMap.Proofs.FirstFault
import BayMap.Proofs.PhysAsked
import BayMap.Proofs.ExpanderReports
import BayMap.Proofs.PageChains
import BayMap.Proofs.SlotOutcomes
import BayMap.Proofs.Numerals
import BayMap.Proofs.AddressGrammar
import BayMap.Proofs.AddressText
import BayMap.Proofs.DeviceOrder
import BayMap.Proofs.ExpanderSpellings
import BayMap.Proofs.KeptExchanges
import BayMap.Proofs.CompletePages
import BayMap.Proofs.InactivePhys
import BayMap.Proofs.Markers
import BayMap.Proofs.SlotHistory
import BayMap.Proofs.TableRows
import BayMap.Proofs.UnitBytes
import BayMap.Proofs.DumpReading
import BayMap.Proofs.NodeNumbers
