import Scyclone.Lib.Transition
import Scyclone.Lib.CyclicStore
import Scyclone.Lib.Slices
import Scyclone.Lib.Traced
import Scyclone.Lib.Registers
import Scyclone.Juce.AudioBuffer
import Scyclone.Juce.VectorOperations
import Scyclone.Onnx.RingBuffer
import Scyclone.Onnx.InferenceThread
import Scyclone.Onnx.OnnxProcessor
import Scyclone.Onnx.AudioRun
import Scyclone.Onnx.InputIntegrity
import Scyclone.Onnx.OutputAlignment
import Scyclone.Onnx.Latency
import Scyclone.Onnx.Reprepare
import Scyclone.Onnx.Network
import Scyclone.Onnx.LoadTermination
import Scyclone.Onnx.LoadAtomicity
import Scyclone.Plugin.PluginParameters
import Scyclone.Plugin.ProcessBlock
import Scyclone.Plugin.BufferBounds
import Scyclone.Plugin.BlockPartition
import Scyclone.Plugin.Suspend
import Scyclone.Plugin.Settings
import Scyclone.Plugin.SettingsSync
import Scyclone.Onnx.FailedInference
import Scyclone.Onnx.SessionLifetime
import Scyclone.Dsp.Envelope
import Scyclone.Dsp.TransientSplitter
import Scyclone.Dsp.ChannelAgreement
import Scyclone.Dsp.NanContainment
import Scyclone.Dsp.SplitterDivisor
import Scyclone.Dsp.SplitterGain
import Scyclone.Dsp.Compressor
import Scyclone.Dsp.MakeUpGain
import Scyclone.Dsp.DynamicsReset
import Scyclone.Juce.Value
import Scyclone.Plugin.SavedSettings
import Scyclone.Plugin.ModelSelection
import Scyclone.Lib.Slope
import Scyclone.Dsp.CompressorCurve
import Scyclone.Dsp.FollowerOrder
import Scyclone.Dsp.WindowBounds
import Scyclone.Plugin.FilterCoefficients
import Scyclone.Lib.BoundedQueues
import Scyclone.Onnx.RingQueue
import Scyclone.Lib.Decimal
import Scyclone.Plugin.ParameterText
import Scyclone.Ui.KnobPlacement
import Scyclone.Ui.HoverTimer
import Scyclone.Lib.PowerOfTwo
import Scyclone.Rnbo.DelayLine
import Scyclone.Rnbo.Xoshiro
import Scyclone.Rnbo.Granular
import Scyclone.Rnbo.GrainVoice
import Scyclone.Rnbo.GrainRuns
import Scyclone.Rnbo.GrainLinearity
import Scyclone.Lib.BatchServer
import Scyclone.Onnx.Recovery
import Scyclone.Plugin.EndToEnd
import Scyclone.Plugin.Muting
import Scyclone.Onnx.ModelChange
import Scyclone.Plugin.DryWetTiming
import Scyclone.Dsp.LevelInvariance
import Scyclone.Dsp.FadingMemory
import Scyclone.Ui.KnobDrag
